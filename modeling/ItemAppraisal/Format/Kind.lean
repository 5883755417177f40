import ItemAppraisal.Format.Assets
import ItemAppraisal.Format.BillOfMaterials
import ItemAppraisal.Format.CargoScan
import ItemAppraisal.Format.Colony
import ItemAppraisal.Format.Container
import ItemAppraisal.Format.Contract
import ItemAppraisal.Format.DirectionalScan
import ItemAppraisal.Format.Fitting
import ItemAppraisal.Format.KillReport
import ItemAppraisal.Format.Listing
import ItemAppraisal.Format.LootLog
import ItemAppraisal.Format.Mention
import ItemAppraisal.Format.MiningLedger
import ItemAppraisal.Format.SurveyScan
import ItemAppraisal.Format.Wallet

/-!
# Formats

The formats of pasted text and what reading a paste in one of them gives: its content and the numbers of
the lines it takes. Two formats read blocks of lines, the others each line on its own.
-/

namespace ItemAppraisal

/-- A format of pasted text. -/
inductive Format.Kind where
  | killReport
  | fitting
  | lootLog
  | colony
  | container
  | miningLedger
  | wallet
  | surveyScan
  | contract
  | listing
  | assets
  | billOfMaterials
  | cargoScan
  | directionalScan
  | mention
  deriving DecidableEq, Repr

namespace Format.Kind

/-- Every format, in the order in which they are tried. -/
def all : List Kind :=
  [killReport, fitting, lootLog, colony, container, miningLedger, wallet, surveyScan, contract, listing,
    assets, billOfMaterials, cargoScan, directionalScan, mention]

/-- The name under which a format is reported. -/
def name : Kind → String
  | killReport => "killmail"
  | fitting => "eft"
  | lootLog => "loot_history"
  | colony => "pi"
  | container => "view_contents"
  | miningLedger => "mining_ledger"
  | wallet => "wallet"
  | surveyScan => "survey_scan"
  | contract => "contract"
  | listing => "listing"
  | assets => "assets"
  | billOfMaterials => "industry"
  | cargoScan => "cargo_scan"
  | directionalScan => "dscan"
  | mention => "heuristic"

/-- The format with a name. -/
def ofName? (name : String) : Option Kind :=
  all.find? (·.name == name)

end Format.Kind

/-- What a paste holds in one format. -/
inductive Format.Content where
  | killReport (report : KillReport)
  | fitting (fitting : Fitting)
  | lootLog (items : List Loot)
  | colony (items : List Commodity)
  | container (items : List ContainedItem)
  | miningLedger (items : List MinedOre)
  | wallet (transactions : List WalletTransaction) (journal : List JournalEntry)
  | surveyScan (items : List SurveyedOre)
  | contract (items : List ContractItem)
  | listing (items : List Stack)
  | assets (items : List Asset)
  | billOfMaterials (items : List Stack)
  | cargoScan (items : List CargoItem)
  | directionalScan (items : List Sighting)
  | mention (items : List Stack)

namespace Format.Content

/-- The format of a content. -/
def kind : Content → Kind
  | killReport _ => .killReport
  | fitting _ => .fitting
  | lootLog _ => .lootLog
  | colony _ => .colony
  | container _ => .container
  | miningLedger _ => .miningLedger
  | wallet _ _ => .wallet
  | surveyScan _ => .surveyScan
  | contract _ => .contract
  | listing _ => .listing
  | assets _ => .assets
  | billOfMaterials _ => .billOfMaterials
  | cargoScan _ => .cargoScan
  | directionalScan _ => .directionalScan
  | mention _ => .mention

/-- The listed items of a content, repetitions included. -/
def listed : Content → List ListedItem
  | killReport report => report.listed
  | fitting f => f.listed
  | lootLog items => items.map (·.listed)
  | colony items => items.map (·.listed)
  | container items => items.map (·.listed)
  | miningLedger items => items.map (·.listed)
  | wallet transactions _ => transactions.map (·.listed)
  | surveyScan items => items.map (·.listed)
  | contract items => items.map (·.listed)
  | listing items | billOfMaterials items | mention items => items.map (·.listed)
  | assets items => items.map (·.listed)
  | cargoScan items => items.map (·.listed)
  | directionalScan items => items.map (·.listed)

end Format.Content

/-- The content of a paste in one format, with the numbers of the lines it was read from. -/
structure Reading where
  content : Format.Content
  lines : List Nat

namespace Reading

/-- The reading of lines of which each was read on its own. -/
def ofLines {α : Type} (content : List α → Format.Content) (read : List (Nat × α)) : Reading :=
  ⟨content (read.map (·.2)), read.map (·.1)⟩

/-- The format of a reading. -/
def kind (r : Reading) : Format.Kind :=
  r.content.kind

end Reading

namespace Format

/-- Reads a paste in one format. -/
def Kind.read (types : TypeCatalog) (paste : Paste) : Kind → Reading
  | killReport =>
    match KillReport.readReport paste with
    | some (report, lines) => ⟨.killReport report, lines⟩
    | none => ⟨.killReport {}, []⟩
  | fitting =>
    match Fitting.readBlock paste with
    | some (f, lines) => ⟨.fitting f, lines⟩
    | none => ⟨.fitting ⟨"", "", []⟩, []⟩
  | lootLog => .ofLines (fun items => .lootLog (Loot.sort items)) (paste.readLines Loot.read?)
  | colony => .ofLines .colony (paste.readLines Commodity.read?)
  | container => .ofLines .container (paste.readLines ContainedItem.read?)
  | miningLedger => .ofLines .miningLedger (paste.readLines MinedOre.read?)
  | wallet =>
    let (transactions, journal) := readWallet paste
    ⟨.wallet (transactions.map (·.2)) (journal.map (·.2)),
      (transactions.map (·.1) ++ journal.map (·.1)).mergeSort⟩
  | surveyScan => .ofLines .surveyScan (paste.readLines SurveyedOre.read?)
  | contract => .ofLines .contract (paste.readLines ContractItem.read?)
  | listing => .ofLines .listing (paste.readLines (Listing.read? types))
  | assets => .ofLines .assets (paste.readLines Asset.read?)
  | billOfMaterials => .ofLines .billOfMaterials (paste.readLines BillOfMaterials.read?)
  | cargoScan => .ofLines .cargoScan (paste.readLines CargoItem.read?)
  | directionalScan => .ofLines .directionalScan (paste.readLines Sighting.read?)
  | mention => .ofLines .mention (paste.readLines (Mention.read? types))

theorem Kind.kind_read (types : TypeCatalog) (paste : Paste) (k : Kind) :
    (k.read types paste).kind = k := by
  cases k <;> simp only [Kind.read, Reading.kind, Reading.ofLines, Content.kind]
  · cases KillReport.readReport paste <;> rfl
  · cases Fitting.readBlock paste <;> rfl

end Format

end ItemAppraisal
