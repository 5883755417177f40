import ItemAppraisal.Text.Blank
import Mathlib.Data.List.DropRight

/-!
# Trimmed texts

Trimming cuts off removed characters at the two ends and nothing else (`exists_eq_append_trimBy`), so it
does not matter whether some of them have been cut off before (`trimBy_trimBy`), and it leaves a text as it is
if and only if there are none (`trimBy_eq_self_iff`).
-/

namespace ItemAppraisal.Text

theorem dropRightBy_eq_rdropWhile (p : Char → Bool) (s : List Char) :
    dropRightBy p s = s.rdropWhile p := rfl

/-- What is cut off at the two ends consists of removed characters. -/
theorem exists_eq_append_trimBy (p : Char → Bool) (s : List Char) :
    ∃ front back, s = front ++ (trimBy p s ++ back) ∧ (∀ c ∈ front, p c = true) ∧
      ∀ c ∈ back, p c = true := by
  refine ⟨s.takeWhile p, (s.dropWhile p).rtakeWhile p, ?_, fun c => List.mem_takeWhile_imp,
    fun c => List.mem_rtakeWhile_imp⟩
  rw [trimBy, dropRightBy_eq_rdropWhile, List.rdropWhile, List.rtakeWhile, ← List.reverse_append,
    List.takeWhile_append_dropWhile, List.reverse_reverse, List.takeWhile_append_dropWhile]

theorem trimBy_append {p : Char → Bool} {front back : List Char} (hf : ∀ c ∈ front, p c = true)
    (hb : ∀ c ∈ back, p c = true) (s : List Char) : trimBy p (front ++ (s ++ back)) = trimBy p s := by
  have cut (t : List Char) : (t ++ back).rdropWhile p = t.rdropWhile p := by
    rw [List.rdropWhile, List.reverse_append,
      List.dropWhile_append_of_pos fun c member => hb c (List.mem_reverse.1 member), List.rdropWhile]
  rw [trimBy, trimBy, dropRightBy_eq_rdropWhile, dropRightBy_eq_rdropWhile,
    List.dropWhile_append_of_pos hf, List.dropWhile_append]
  split
  · rename_i blank
    rw [List.isEmpty_iff.1 blank, List.dropWhile_eq_nil_iff.2 hb]
  · exact cut _

theorem trimBy_append_left {p : Char → Bool} {front : List Char} (hf : ∀ c ∈ front, p c = true)
    (s : List Char) : trimBy p (front ++ s) = trimBy p s := by
  have cut := trimBy_append hf (List.forall_mem_nil _) s
  rwa [List.append_nil] at cut

/-- Removing more characters from what is left is removing them from the whole text. -/
theorem trimBy_trimBy {p q : Char → Bool} (more : ∀ c, p c = true → q c = true) (s : List Char) :
    trimBy q (trimBy p s) = trimBy q s := by
  obtain ⟨front, back, split, hf, hb⟩ := exists_eq_append_trimBy p s
  conv_rhs => rw [split]
  exact (trimBy_append (fun c member => more c (hf c member)) (fun c member => more c (hb c member)) _).symm

theorem trimText_trimText {p q : Char → Bool} (more : ∀ c, p c = true → q c = true) (s : String) :
    trimText q (trimText p s) = trimText q s := by
  rw [trimText, trimText, String.toList_ofList, trimBy_trimBy more, trimText]

theorem trimText_eq_empty_iff {p : Char → Bool} {s : String} :
    trimText p s = "" ↔ ∀ c ∈ s.toList, p c = true := by
  rw [trimText, ← String.toList_eq_nil_iff, String.toList_ofList]
  constructor
  · intro blank
    obtain ⟨front, back, split, hf, hb⟩ := exists_eq_append_trimBy p s.toList
    intro c member
    rw [split, blank, List.nil_append, List.mem_append] at member
    exact member.elim (hf c) (hb c)
  · intro blank
    have whole := trimBy_append blank (fun c (member : c ∈ []) => by cases member) []
    simpa using whole

theorem trim_eq_empty_iff {s : String} : trim s = "" ↔ ∀ c ∈ s.toList, isBlank c = true :=
  trimText_eq_empty_iff

/-! ## The two ends of a text -/

/-- The first character of a text and the last one are not removed. -/
def EndsKept (p : Char → Bool) (s : List Char) : Prop :=
  (∀ c ∈ s.head?, p c = false) ∧ ∀ c ∈ s.getLast?, p c = false

theorem dropWhile_eq_self_iff {p : Char → Bool} {s : List Char} :
    s.dropWhile p = s ↔ ∀ c ∈ s.head?, p c = false := by
  rw [List.dropWhile_eq_self_iff]
  cases s <;> simp

theorem trimBy_eq_self_iff {p : Char → Bool} {s : List Char} : trimBy p s = s ↔ EndsKept p s := by
  have back : s.rdropWhile p = s ↔ ∀ c ∈ s.getLast?, p c = false := by
    rw [List.rdropWhile, List.reverse_eq_iff, dropWhile_eq_self_iff, List.head?_reverse]
  rw [EndsKept, ← dropWhile_eq_self_iff, ← back, trimBy, dropRightBy_eq_rdropWhile]
  constructor
  · intro kept
    have front : s.dropWhile p = s := by
      have shorter := (List.rdropWhile_prefix p (s.dropWhile p)).length_le
      rw [kept] at shorter
      exact (List.dropWhile_suffix p).eq_of_length
        (Nat.le_antisymm (List.dropWhile_suffix p).length_le shorter)
    rw [front] at kept
    exact ⟨front, kept⟩
  · rintro ⟨front, back⟩
    rw [front, back]

theorem trim_eq_self_iff {s : String} : trim s = s ↔ EndsKept isBlank s.toList := by
  rw [← trimBy_eq_self_iff, trim, trimText]
  constructor
  · intro kept
    simpa using congrArg String.toList kept
  · intro kept
    rw [kept, String.ofList_toList]

theorem trim_trim (s : String) : trim (trim s) = trim s :=
  trimText_trimText (fun _ blank => blank) s

end ItemAppraisal.Text
