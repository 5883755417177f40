import ItemAppraisal.Appraisal.Appraiser
import ItemAppraisal.Appraisal.Basic
import ItemAppraisal.Buyback.Basket
import ItemAppraisal.Buyback.Decomposition
import ItemAppraisal.Buyback.Engine
import ItemAppraisal.Classification
import ItemAppraisal.CommandLine.AppraisalTable
import ItemAppraisal.CommandLine.Columns
import ItemAppraisal.CommandLine.Files
import ItemAppraisal.CommandLine.Grammar
import ItemAppraisal.CommandLine.Identifier
import ItemAppraisal.CommandLine.Loading
import ItemAppraisal.CommandLine.Program
import ItemAppraisal.CommandLine.Request
import ItemAppraisal.CommandLine.Token
import ItemAppraisal.CommandLine.TypeSheet
import ItemAppraisal.Decimal.Binary64
import ItemAppraisal.Decimal.Fixed
import ItemAppraisal.Decimal.Reading
import ItemAppraisal.Decimal.Shortest
import ItemAppraisal.Error
import ItemAppraisal.Format.Assets
import ItemAppraisal.Format.BillOfMaterials
import ItemAppraisal.Format.CargoScan
import ItemAppraisal.Format.Cell
import ItemAppraisal.Format.Colony
import ItemAppraisal.Format.Container
import ItemAppraisal.Format.Contract
import ItemAppraisal.Format.DirectionalScan
import ItemAppraisal.Format.Fitting
import ItemAppraisal.Format.KillReport
import ItemAppraisal.Format.Kind
import ItemAppraisal.Format.Listing
import ItemAppraisal.Format.LootLog
import ItemAppraisal.Format.Mention
import ItemAppraisal.Format.MiningLedger
import ItemAppraisal.Format.SurveyScan
import ItemAppraisal.Format.Wallet
import ItemAppraisal.Item.Appraised
import ItemAppraisal.Item.Document
import ItemAppraisal.Item.Listed
import ItemAppraisal.Item.Merge
import ItemAppraisal.Json.Basic
import ItemAppraisal.Json.Decode
import ItemAppraisal.Json.Parser
import ItemAppraisal.Json.Printer
import ItemAppraisal.LoadSummary
import ItemAppraisal.Main
import ItemAppraisal.Markets.Catalog
import ItemAppraisal.Paste
import ItemAppraisal.Prices.Basic
import ItemAppraisal.Prices.Document
import ItemAppraisal.Pricing.BlueprintCopy
import ItemAppraisal.Pricing.Engine
import ItemAppraisal.Pricing.OreYield
import ItemAppraisal.Quantity
import ItemAppraisal.Settings
import ItemAppraisal.Table
import ItemAppraisal.Text.Blank
import ItemAppraisal.Text.Case
import ItemAppraisal.Text.CaseTables
import ItemAppraisal.Text.Cased
import ItemAppraisal.Text.Digit
import ItemAppraisal.Text.Part
import ItemAppraisal.Text.Pattern
import ItemAppraisal.Text.Ranges
import ItemAppraisal.Text.Word
import ItemAppraisal.Timestamp
import ItemAppraisal.Types.Catalog
import ItemAppraisal.Types.Record
import ItemAppraisal.Proofs.Eligibility
import ItemAppraisal.Proofs.FormatLines
import ItemAppraisal.Proofs.ItemResolution
import ItemAppraisal.Proofs.LineConservation
import ItemAppraisal.Proofs.LineLocality
import ItemAppraisal.Proofs.Recognition
import ItemAppraisal.Proofs.Merging
import ItemAppraisal.Proofs.CaseFolding
import ItemAppraisal.Proofs.TypeNames
import ItemAppraisal.Proofs.PriceSpelling
import ItemAppraisal.Proofs.MaterialSteps
import ItemAppraisal.Proofs.BasketOrder
import ItemAppraisal.Proofs.GlobalBasket
import ItemAppraisal.Proofs.ItemStatus
import ItemAppraisal.Proofs.Padding
import ItemAppraisal.Proofs.JoinedPastes
import ItemAppraisal.Proofs.MergeLaws
import ItemAppraisal.Proofs.DepthLimit
import ItemAppraisal.Proofs.PriceFormulas
import ItemAppraisal.Proofs.CopyMarks
import ItemAppraisal.Proofs.RejectionFilter
import ItemAppraisal.Proofs.JsonRecords
import ItemAppraisal.Proofs.TimestampText
import ItemAppraisal.Proofs.StoredRecords
import ItemAppraisal.Proofs.StoredAppraisals
import ItemAppraisal.Proofs.Repricing
import ItemAppraisal.Proofs.Descent
import ItemAppraisal.Proofs.Ineligibility
import ItemAppraisal.Proofs.NestingBound
import ItemAppraisal.Proofs.ExactYield
import ItemAppraisal.Proofs.TypeLoading
import ItemAppraisal.Proofs.FoldedEnds
import ItemAppraisal.Proofs.PaddedNames
import ItemAppraisal.Proofs.PriceLoading
import ItemAppraisal.Proofs.ItemAccounting
import ItemAppraisal.Proofs.PatternReadings
import ItemAppraisal.Proofs.ColumnPatterns
import ItemAppraisal.Proofs.TabColumns
import ItemAppraisal.Proofs.IntegerDoubles
import ItemAppraisal.Proofs.DigitGroups
import ItemAppraisal.Proofs.ListingLayouts
import ItemAppraisal.Proofs.MentionParts
import ItemAppraisal.Proofs.Mentions
import ItemAppraisal.Proofs.FittingBlocks
import ItemAppraisal.Proofs.ReportSections
import ItemAppraisal.Proofs.LineAdjustments
import ItemAppraisal.Proofs.NameSearch
import ItemAppraisal.Proofs.DoubleValues
import ItemAppraisal.Proofs.BasketAssembly
import ItemAppraisal.Proofs.MaterialWays
import ItemAppraisal.Proofs.StepLosses
import ItemAppraisal.Proofs.DisplayedAmounts
import ItemAppraisal.Proofs.SumsByKey
import ItemAppraisal.Proofs.QuantityTotals
