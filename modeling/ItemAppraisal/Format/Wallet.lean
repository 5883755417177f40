import ItemAppraisal.Format.Cell

/-!
# Wallets

Two kinds of lines: transactions on the market, which name an item, and entries of the journal, which do
not. A line that could be both is a transaction.
-/

namespace ItemAppraisal

open Text (Pattern)

/-- A purchase or a sale. -/
structure WalletTransaction where
  dateTime : String
  /-- The units traded, for a purchase and a sale alike. -/
  quantity : Int
  name : String
  price : Float
  total : Float
  client : String
  location : String
  deriving DecidableEq

/-- A movement of money. -/
structure JournalEntry where
  dateTime : String
  referenceType : String
  amount : Float
  balance : Float
  description : String
  deriving DecidableEq

namespace WalletTransaction

/-- The shape of a line. -/
def shape : Pattern :=
  Format.line [.group 1 Format.dateTime, Format.tab, .group 2 Format.signedNumber, Format.tab,
    .group 3 Format.visible, Format.tab, .group 4 Format.signedNumber, .text " ISK", Format.tab,
    .group 5 Format.signedNumber, .text " ISK", Format.tab, .group 6 (.eager Format.isVisible),
    Format.tab, .group 7 (.eager Format.isVisible)]

/-- Reads a line. -/
def read? (s : List Char) : Option WalletTransaction :=
  (shape.match? s).map fun caps =>
    { dateTime := caps.text 1
      quantity := Quantity.read ((caps.get 2).dropWhile (· == '-'))
      name := caps.text 3
      price := Amount.read (caps.get 4)
      total := Amount.read (caps.get 5)
      client := caps.text 6
      location := caps.text 7 }

/-- The listed item of a transaction. -/
def listed (t : WalletTransaction) : ListedItem :=
  { name := t.name, quantity := t.quantity }

end WalletTransaction

namespace JournalEntry

/-- The shape of a line. -/
def shape : Pattern :=
  Format.line [.group 1 Format.dateTime, Format.tab, .group 2 Format.visible, Format.tab,
    .group 3 Format.signedNumber, .text " ISK", Format.tab, .group 4 Format.signedNumber,
    .text " ISK", .optional Format.tab, .group 5 (.eager Format.isVisible)]

/-- Reads a line. -/
def read? (s : List Char) : Option JournalEntry :=
  (shape.match? s).map fun caps =>
    { dateTime := caps.text 1
      referenceType := caps.text 2
      amount := Amount.read (caps.get 3)
      balance := Amount.read (caps.get 4)
      description := caps.text 5 }

end JournalEntry

/-- Reads the transactions of a paste and then the journal entries among its other lines, each with the
number of its line. -/
def readWallet (paste : Paste) : List (Nat × WalletTransaction) × List (Nat × JournalEntry) :=
  let transactions := paste.readLines WalletTransaction.read?
  (transactions, (paste.without (transactions.map (·.1))).readLines JournalEntry.read?)

end ItemAppraisal
