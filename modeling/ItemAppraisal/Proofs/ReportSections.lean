import ItemAppraisal.Proofs.ItemAccounting

/-!
# The sections of a report

A report is read in one pass that keeps a section and several lists. All the same each of its parts depends
on the lines of one section alone, in their order, wherever the sections stand and however often they repeat
(`Accumulates.readReport`), and the parties on the fields of theirs: each field belongs to the last name
before it (`foldl_partyStep`). Main statement: `read_report`.
-/

namespace ItemAppraisal

open Format (Kind)

namespace KillReport

/-! ## Lines of sections -/

/-- Whether a line of a section is part of a report. -/
def isPart (current : Section) (s : List Char) : Bool :=
  s.isEmpty || (section? s).isSome || match current with
    | .victim => timeShape.fits s || fieldShape.fits s
    | .involved => fieldShape.fits s
    | .destroyed | .dropped => itemShape.fits s

/-- The lines of a section in their order, without blank lines and headers. -/
def body (paste : Paste) (current : Section) : List (List Char) :=
  (paste.lines.filter fun line =>
    sectionAt paste line = current && !(line.clean.isEmpty || (section? line.clean).isSome)).map Line.clean

theorem isSome_entryOf? (current : Section) (s : List Char) :
    (entryOf? current s).isSome = isPart current s := by
  have field : (field? s).isSome = fieldShape.fits s := by rw [field?, Option.isSome_map, Text.Pattern.fits]
  have item : (item? s).isSome = itemShape.fits s := by rw [item?, Option.isSome_map, Text.Pattern.fits]
  rw [entryOf?.eq_def, isPart.eq_def]
  by_cases nothing : (s.isEmpty || (section? s).isSome) = true
  · simp [nothing]
  · have inside := Bool.eq_false_iff.2 nothing
    rw [if_neg nothing, inside, Bool.false_or]
    cases current with
    | victim => by_cases timed : timeShape.fits s = true <;> simp [timed, field]
    | involved => simp [field]
    | destroyed => simp [item]
    | dropped => simp [item]

/-! ## Parties -/

theorem changeLast_concat {α : Type} (f : α → α) (l : List α) (a : α) :
    changeLast f (l ++ [a]) = l ++ [f a] := by
  induction l with
  | nil => rfl
  | cons b l ih =>
    have kept : changeLast f (b :: (l ++ [a])) = b :: changeLast f (l ++ [a]) := by
      cases l <;> rfl
    rw [List.cons_append, kept, ih, List.cons_append]

theorem changeLast_id {α : Type} (l : List α) : changeLast id l = l := by
  rcases List.eq_nil_or_concat' l with rfl | ⟨front, a, rfl⟩
  · rfl
  · exact changeLast_concat id front a

theorem changeLast_changeLast {α : Type} (f g : α → α) (l : List α) :
    changeLast g (changeLast f l) = changeLast (g ∘ f) l := by
  rcases List.eq_nil_or_concat' l with rfl | ⟨front, a, rfl⟩
  · rfl
  · simp only [changeLast_concat, Function.comp_apply]

/-- A party that is only known by its name. -/
def partyOfName (value : List Char) : Party :=
  { name := String.ofList (Text.withoutEnding finalBlowMark value)
    finalBlow := finalBlowMark.isSuffixOf value }

/-- A party with several fields set, one after another. -/
def setFields (fields : List (String × List Char)) (p : Party) : Party :=
  fields.foldl (fun p field => setParty p field.1 field.2) p

/-- The parties that fields stand for: one for each name, with the fields up to the next name. Fields before
the first name stand for none. -/
def partiesOf : List (String × List Char) → List Party
  | [] => []
  | (name, value) :: rest =>
    if name = "Name" then setFields (rest.takeWhile (·.1 ≠ "Name")) (partyOfName value) :: partiesOf rest
    else partiesOf rest

/-- Parties once another field is read. -/
def partyStep (parties : List Party) (field : String × List Char) : List Party :=
  if field.1 = "Name" then parties ++ [partyOfName field.2]
  else changeLast (setParty · field.1 field.2) parties

/-- The fields in front of the first name go to the last party that is there already. -/
theorem foldl_partyStep (parties : List Party) (fields : List (String × List Char)) :
    fields.foldl partyStep parties =
      changeLast (setFields (fields.takeWhile (·.1 ≠ "Name"))) parties ++ partiesOf fields := by
  induction fields generalizing parties with
  | nil =>
    have unchanged : setFields [] = id := rfl
    rw [List.takeWhile_nil, unchanged, changeLast_id, partiesOf, List.append_nil, List.foldl_nil]
  | cons field rest ih =>
    obtain ⟨name, value⟩ := field
    rw [List.foldl_cons, ih, partiesOf]
    by_cases named : name = "Name"
    · subst named
      have unchanged : setFields [] = id := rfl
      simp [partyStep, changeLast_concat, unchanged, changeLast_id]
    · have first : setFields ((name, value) :: rest.takeWhile (·.1 ≠ "Name")) =
          setFields (rest.takeWhile (·.1 ≠ "Name")) ∘ (setParty · name value) := rfl
      rw [partyStep, if_neg named, if_neg named, changeLast_changeLast,
        List.takeWhile_cons_of_pos (by simpa using named), first]

/-! ## Parts of a report -/

/-- The section whose lines give an entry; blank lines and headers give `nothing` in any of them. -/
def Entry.home? : Entry → Option Section
  | .nothing => none
  | .time _ | .victimField _ _ => some .victim
  | .party _ _ | .partyField _ _ => some .involved
  | .destroyed _ => some .destroyed
  | .dropped _ => some .dropped

theorem entryOf?_inside {s : List Char} (filled : s ≠ []) (inside : section? s = none) (current : Section) :
    entryOf? current s = match current with
      | .victim => if timeShape.fits s then some (.time (String.ofList s))
        else (field? s).map fun (name, value) => .victimField name value
      | .involved => (field? s).map fun (name, value) => partyEntry name value
      | .destroyed => (item? s).map .destroyed
      | .dropped => (item? s).map .dropped := by
  rw [entryOf?.eq_def]
  exact if_neg (by simp [filled, inside])

theorem home_partyEntry (name : String) (value : List Char) :
    (partyEntry name value).home? = some .involved := by
  rw [partyEntry]
  split <;> rfl

theorem home_of_entryOf? {current : Section} {s : List Char} {e : Entry} (filled : s ≠ [])
    (inside : section? s = none) (read : entryOf? current s = some e) : e.home? = some current := by
  rw [entryOf?_inside filled inside] at read
  cases current with
  | victim =>
    simp only at read
    split at read
    · cases read
      rfl
    · obtain ⟨field, -, rfl⟩ := Option.map_eq_some_iff.1 read
      rfl
  | involved =>
    obtain ⟨field, -, rfl⟩ := Option.map_eq_some_iff.1 read
    exact home_partyEntry _ _
  | destroyed =>
    obtain ⟨item, -, rfl⟩ := Option.map_eq_some_iff.1 read
    rfl
  | dropped =>
    obtain ⟨item, -, rfl⟩ := Option.map_eq_some_iff.1 read
    rfl

/-- A part of a report that is made of the lines of one section: `change?` is what an entry changes of it,
and `read?` what a line of the section does. -/
structure Accumulates {β γ : Type} (part : KillReport → β) (step : β → γ → β) (change? : Entry → Option γ)
    (current : Section) (read? : List Char → Option γ) : Prop where
  change : ∀ r e, part (r.add e) = ((change? e).map (step (part r))).getD (part r)
  elsewhere : ∀ e : Entry, e.home? ≠ some current → change? e = none
  own : ∀ s, s ≠ [] → section? s = none → (entryOf? current s).bind change? = read? s

namespace Accumulates

variable {β γ : Type} {part : KillReport → β} {step : β → γ → β} {change? : Entry → Option γ}
  {current : Section} {read? : List Char → Option γ}

theorem foldl_add (accumulates : Accumulates part step change? current read?) (r : KillReport)
    (es : List (Nat × Entry)) : part (es.foldl (fun r e => r.add e.2) r) =
      (es.filterMap fun e => change? e.2).foldl step (part r) := by
  induction es generalizing r with
  | nil => rfl
  | cons e es ih =>
    rw [List.foldl_cons, ih, accumulates.change, List.filterMap_cons]
    cases change? e.2 <;> rfl

theorem filterMap_entries (accumulates : Accumulates part step change? current read?) (paste : Paste) :
    ((entries .victim paste.lines).filterMap fun e => change? e.2) = (body paste current).filterMap read? := by
  rw [entries_eq_filterMap, List.filterMap_filterMap, body, List.filterMap_map, List.filterMap_filter]
  refine List.filterMap_congr fun line _ => ?_
  have same : (((entryOf? (sectionAt paste line) line.clean).map (line.number, ·)).bind fun e => change? e.2) =
      (entryOf? (sectionAt paste line) line.clean).bind change? := by
    cases entryOf? (sectionAt paste line) line.clean <;> rfl
  rw [same]
  by_cases nothing : (line.clean.isEmpty || (section? line.clean).isSome) = true
  · have unchanged : change? .nothing = none := accumulates.elsewhere _ (by simp [Entry.home?])
    rw [entryOf?.eq_def, if_pos nothing, nothing]
    simp [unchanged]
  · have filled : line.clean ≠ [] ∧ section? line.clean = none := by simpa using nothing
    by_cases inside : sectionAt paste line = current
    · rw [inside, accumulates.own _ filled.1 filled.2]
      simp [filled]
    · cases read : entryOf? (sectionAt paste line) line.clean with
      | none => simp [inside]
      | some e =>
        have home := home_of_entryOf? filled.1 filled.2 read
        have other : change? e = none := accumulates.elsewhere e (by simp [home, inside])
        simp [other, inside]

/-- A part of a report is made of what the lines of its section say, in their order. -/
theorem readReport (accumulates : Accumulates part step change? current read?) (paste : Paste) :
    part ((entries .victim paste.lines).foldl (fun r e => r.add e.2) {}) =
      ((body paste current).filterMap read?).foldl step (part {}) := by
  rw [accumulates.foldl_add, accumulates.filterMap_entries]

end Accumulates

/-- What an entry sets the time to. -/
def Entry.time? : Entry → Option String
  | .time s => some s
  | _ => none

/-- The field of the victim that an entry holds. -/
def Entry.victimField? : Entry → Option (String × List Char)
  | .victimField name value => some (name, value)
  | _ => none

/-- What an entry does to the parties. -/
def Entry.parties? : Entry → Option (List Party → List Party)
  | .party name finalBlow => some (· ++ [{ name, finalBlow }])
  | .partyField name value => some (changeLast (setParty · name value))
  | _ => none

/-- The destroyed item that an entry holds. -/
def Entry.destroyed? : Entry → Option LostItem
  | .destroyed item => some item
  | _ => none

/-- The dropped item that an entry holds. -/
def Entry.dropped? : Entry → Option LostItem
  | .dropped item => some item
  | _ => none

theorem accumulates_time : Accumulates KillReport.time (fun _ s => s) Entry.time? .victim
    fun s => if timeShape.fits s then some (String.ofList s) else none where
  change r e := by cases e <;> rfl
  elsewhere e other := by
    cases e with
    | time s => exact absurd rfl other
    | _ => rfl
  own s filled inside := by
    rw [entryOf?_inside filled inside]
    by_cases timed : timeShape.fits s = true
    · simp [timed, Entry.time?]
    · cases field? s <;> simp [timed, Entry.time?]

theorem accumulates_victim : Accumulates KillReport.victim (fun v field => setVictim v field.1 field.2)
    Entry.victimField? .victim fun s => if timeShape.fits s then none else field? s where
  change r e := by cases e <;> rfl
  elsewhere e other := by
    cases e with
    | victimField name value => exact absurd rfl other
    | _ => rfl
  own s filled inside := by
    rw [entryOf?_inside filled inside]
    by_cases timed : timeShape.fits s = true
    · simp [timed, Entry.victimField?]
    · cases field? s <;> simp [timed, Entry.victimField?]

theorem accumulates_involved : Accumulates KillReport.involved (fun parties change => change parties)
    Entry.parties? .involved fun s => (field? s).map fun field parties => partyStep parties field where
  change r e := by cases e <;> rfl
  elsewhere e other := by
    cases e with
    | party name finalBlow => exact absurd rfl other
    | partyField name value => exact absurd rfl other
    | _ => rfl
  own s filled inside := by
    rw [entryOf?_inside filled inside]
    cases field? s with
    | none => rfl
    | some field =>
      obtain ⟨name, value⟩ := field
      by_cases named : name = "Name" <;> simp [partyEntry, partyStep, partyOfName, Entry.parties?, named]

theorem accumulates_destroyed : Accumulates KillReport.destroyed (fun items item => items ++ [item])
    Entry.destroyed? .destroyed item? where
  change r e := by cases e <;> rfl
  elsewhere e other := by
    cases e with
    | destroyed item => exact absurd rfl other
    | _ => rfl
  own s filled inside := by
    rw [entryOf?_inside filled inside]
    cases item? s <;> rfl

theorem accumulates_dropped : Accumulates KillReport.dropped (fun items item => items ++ [item])
    Entry.dropped? .dropped item? where
  change r e := by cases e <;> rfl
  elsewhere e other := by
    cases e with
    | dropped item => exact absurd rfl other
    | _ => rfl
  own s filled inside := by
    rw [entryOf?_inside filled inside]
    cases item? s <;> rfl

/-! ## Whole reports -/

/-- A report put together section by section. -/
def bySections (paste : Paste) : KillReport where
  time := (((body paste .victim).filter timeShape.fits).getLast?.map String.ofList).getD ""
  victim := (((body paste .victim).filter (!timeShape.fits ·)).filterMap field?).foldl
    (fun v field => setVictim v field.1 field.2) {}
  involved := partiesOf ((body paste .involved).filterMap field?)
  destroyed := (body paste .destroyed).filterMap item?
  dropped := (body paste .dropped).filterMap item?

/-- Whether a paste holds a report. -/
def IsMarked (paste : Paste) : Prop :=
  ∃ line ∈ paste.lines, "Victim: ".toList <+: line.clean ∨ line.clean = "Destroyed items:".toList ∨
    line.clean = "Dropped items:".toList

/-- The header that starts a section, if any does. -/
def Section.header? : Section → Option (List Char)
  | victim => none
  | involved => some "Involved parties:".toList
  | destroyed => some "Destroyed items:".toList
  | dropped => some "Dropped items:".toList

theorem section?_eq_some_iff {s : List Char} {current : Section} : section? s = some current ↔
    current.header? = some s := by
  constructor
  · intro header
    rw [section?] at header
    split_ifs at header with involved destroyed dropped
    · rw [← Option.some.inj header, involved, Section.header?]
    · rw [← Option.some.inj header, destroyed, Section.header?]
    · rw [← Option.some.inj header, dropped, Section.header?]
  · intro header
    cases current with
    | victim => cases header
    | _ =>
      rw [← Option.some.inj header]
      decide

theorem isMarked_iff {paste : Paste} :
    IsMarked paste ↔ ∃ line ∈ paste.lines, marksReport line.clean = true := by
  have header {s t : List Char} : some s = some t ↔ t = s := by rw [Option.some_inj, eq_comm]
  simp only [IsMarked, marksReport, Bool.or_eq_true, List.isPrefixOf_iff_prefix, beq_iff_eq, section?_eq_some_iff,
    or_assoc, Section.header?, header]

theorem foldl_concat {α : Type} (items more : List α) :
    more.foldl (fun items item => items ++ [item]) items = items ++ more := by
  induction more generalizing items with
  | nil => simp
  | cons item more ih => simp [ih]

theorem foldl_last {α : Type} (a : α) (l : List α) : l.foldl (fun _ b => b) a = l.getLast?.getD a := by
  induction l generalizing a with
  | nil => rfl
  | cons b l ih => rw [List.foldl_cons, ih, List.getLast?_cons, Option.getD_some]

/-- One pass over the lines gives what the sections give one by one. -/
theorem foldl_add_entries (paste : Paste) :
    (entries .victim paste.lines).foldl (fun r e => r.add e.2) {} = bySections paste := by
  generalize built : (entries .victim paste.lines).foldl (fun r e => KillReport.add r e.2) {} = r
  have time : r.time = (bySections paste).time := by
    have timed : ((body paste .victim).filter timeShape.fits).map String.ofList =
        (body paste .victim).filterMap fun s => if timeShape.fits s then some (String.ofList s) else none := by
      rw [← List.filterMap_eq_map, List.filterMap_filter]
      rfl
    rw [← built, accumulates_time.readReport, foldl_last, bySections]
    simp only [← List.getLast?_map, timed]
  have victim : r.victim = (bySections paste).victim := by
    have untimed : ((body paste .victim).filter (!timeShape.fits ·)).filterMap field? =
        (body paste .victim).filterMap fun s => if timeShape.fits s then none else field? s := by
      rw [List.filterMap_filter]
      refine List.filterMap_congr fun s _ => ?_
      by_cases timed : timeShape.fits s = true <;> simp [timed]
    rw [← built, accumulates_victim.readReport, bySections]
    simp only [untimed]
  have involved : r.involved = (bySections paste).involved := by
    have fields : (body paste .involved).filterMap
        (fun s => (field? s).map fun field parties => partyStep parties field) =
          ((body paste .involved).filterMap field?).map fun field parties => partyStep parties field := by
      rw [List.map_filterMap]
    rw [← built, accumulates_involved.readReport, fields, List.foldl_map, foldl_partyStep]
    exact List.nil_append _
  have destroyed : r.destroyed = (bySections paste).destroyed := by
    rw [← built, accumulates_destroyed.readReport, foldl_concat]
    exact List.nil_append _
  have dropped : r.dropped = (bySections paste).dropped := by
    rw [← built, accumulates_dropped.readReport, foldl_concat]
    exact List.nil_append _
  calc r = ⟨r.time, r.victim, r.involved, r.destroyed, r.dropped⟩ := rfl
    _ = bySections paste := by rw [time, victim, involved, destroyed, dropped]

/-- The lines of a report are those that are part of it where they stand. -/
theorem numbers_entries (paste : Paste) : (entries .victim paste.lines).map (·.1) =
    (paste.lines.filter fun line => isPart (sectionAt paste line) line.clean).map (·.number) := by
  rw [entries_eq_filterMap, Paste.numbers_filterMap]
  simp only [isSome_entryOf?]

end KillReport

/-- A paste without the name of a victim and without a header of items is left whole. Of any other one a
report takes exactly the lines that are part of it in the section of the nearest header above, and it says
what these lines say section by section. -/
theorem read_report (types : TypeCatalog) (paste : Paste) :
    let taken := (Kind.killReport.read types paste).lines
    (¬KillReport.IsMarked paste →
      Kind.killReport.read types paste = ⟨.killReport {}, []⟩ ∧ paste.without taken = paste) ∧
    (KillReport.IsMarked paste →
      let part := fun line => KillReport.isPart (KillReport.sectionAt paste line) line.clean
      Kind.killReport.read types paste =
        ⟨.killReport (.bySections paste), (paste.lines.filter part).map (·.number)⟩ ∧
      (paste.without taken).lines = paste.lines.filter fun line => !part line) := by
  intro taken
  constructor
  · intro unmarked
    rw [KillReport.isMarked_iff] at unmarked
    have none : KillReport.readReport paste = none :=
      KillReport.readReport_of_unmarked (by simpa using unmarked)
    have read : Kind.killReport.read types paste = ⟨.killReport {}, []⟩ := by rw [Kind.read, none]
    refine ⟨read, ?_⟩
    simp only [taken, read]
    exact paste.without_nil
  · intro marked part
    rw [KillReport.isMarked_iff] at marked
    have numbers : (KillReport.entries .victim paste.lines).map (·.1) =
        (paste.lines.filter part).map (·.number) := KillReport.numbers_entries paste
    have read : Kind.killReport.read types paste =
        ⟨.killReport (.bySections paste), (paste.lines.filter part).map (·.number)⟩ := by
      rw [Kind.read, KillReport.readReport, if_pos (by simpa using marked)]
      simp only [KillReport.foldl_add_entries, numbers]
    refine ⟨read, ?_⟩
    simp only [taken, read]
    exact paste.lines_without_filter part

/-! ## A report with sections that alternate -/

namespace AlternatingReport

/-- Dropped items, destroyed items and dropped items again, with a party and fields without one. -/
def paste : Paste where
  lines := [⟨1, "Dropped items:"⟩, ⟨2, "Tritanium, Qty: 10"⟩, ⟨3, "Involved parties:"⟩, ⟨4, "Corp: One"⟩,
    ⟨5, "Name: Two"⟩, ⟨6, "Ship: Rifter"⟩, ⟨7, "Destroyed items:"⟩, ⟨8, "Plate"⟩, ⟨9, "Dropped items:"⟩,
    ⟨10, "1 x Ore ("⟩, ⟨11, "Pyerite"⟩]
  ascending := by decide

/-- What it says. -/
def report : KillReport where
  involved := [{ name := "Two", ship := "Rifter" }]
  destroyed := [⟨"Plate", 1, ""⟩]
  dropped := [⟨"Tritanium", 10, ""⟩, ⟨"Pyerite", 1, ""⟩]

theorem entries_paste :
    (KillReport.entries .victim paste.lines).foldl (fun r e => KillReport.add r e.2) {} = report ∧
      (KillReport.entries .victim paste.lines).map (·.1) = [1, 2, 3, 4, 5, 6, 7, 8, 9, 11] := by
  simp only [paste, KillReport.entries, KillReport.entryOf?, KillReport.field?, KillReport.item?,
    Text.Pattern.fits, Text.Pattern.match?_eq_head?]
  decide +kernel

end AlternatingReport

theorem read_report_alternating :
    KillReport.IsMarked AlternatingReport.paste ∧
      Kind.killReport.read (.ofEntries [] .nil) AlternatingReport.paste =
        ⟨.killReport AlternatingReport.report, [1, 2, 3, 4, 5, 6, 7, 8, 9, 11]⟩ := by
  have marked : KillReport.IsMarked AlternatingReport.paste :=
    ⟨⟨1, "Dropped items:"⟩, by simp [AlternatingReport.paste], by decide⟩
  refine ⟨marked, ?_⟩
  rw [((read_report _ _).2 marked).1, ← KillReport.foldl_add_entries, ← KillReport.numbers_entries,
    AlternatingReport.entries_paste.1, AlternatingReport.entries_paste.2]

end ItemAppraisal
