import AccountingPlatform.Accept.ExactBalance
import AccountingPlatform.Lib.Totals
import AccountingPlatform.Core.PostingLedger
import AccountingPlatform.Core.Integrity
import AccountingPlatform.Core.CalendarDate
import AccountingPlatform.Core.CommandKeys
import AccountingPlatform.Postgres.Catalog
import AccountingPlatform.Postgres.Tables
import AccountingPlatform.Postgres.Periods
import AccountingPlatform.Postgres.Posting
import AccountingPlatform.Postgres.Reversal
import AccountingPlatform.Postgres.Reports
import AccountingPlatform.Postgres.Statements
import AccountingPlatform.Postgres.Closing
import AccountingPlatform.Postgres.Commands
import AccountingPlatform.Postgres.BookControls
import AccountingPlatform.Postgres.WellFormed
import AccountingPlatform.Postgres.Effects
import AccountingPlatform.Postgres.CloseSnapshots
import AccountingPlatform.Postgres.Balances
import AccountingPlatform.Postgres.Rollforward
import AccountingPlatform.Postgres.UnappliedCash
import AccountingPlatform.Postgres.VatRegister
import AccountingPlatform.Postgres.BookReads
import AccountingPlatform.Postgres.BalanceSheet
import AccountingPlatform.Postgres.AppendOnly
import AccountingPlatform.Postgres.RetainedEarnings
import AccountingPlatform.Postgres.CommandKeys
import AccountingPlatform.Postgres.CloseKeys
import AccountingPlatform.Postgres.CloseIdentities
import AccountingPlatform.Postgres.ReversalAdmission
import AccountingPlatform.Postgres.PeriodRuns
import AccountingPlatform.Accept.AcceptedRuns
import AccountingPlatform.Core.Tenants
import AccountingPlatform.Bank.Ingestion
import AccountingPlatform.Bank.Reconciliation
import AccountingPlatform.Postgres.ClosePackage
import AccountingPlatform.Postgres.IncomeStatement
import AccountingPlatform.Postgres.ReferenceBalances
import AccountingPlatform.Postgres.Announcements
import AccountingPlatform.Postgres.OutboxIdentities
import AccountingPlatform.Postgres.Outbox
import AccountingPlatform.Lib.Fifo
import AccountingPlatform.Postgres.Aging
import AccountingPlatform.Lib.Cursors
import AccountingPlatform.Postgres.BalancePages
import AccountingPlatform.Core.IsoFormat
import AccountingPlatform.Core.Numerals
import AccountingPlatform.Postgres.AccountLedger
import AccountingPlatform.Postgres.JournalSources
import AccountingPlatform.Postgres.BalanceBases
import AccountingPlatform.Bank.Allocation
import AccountingPlatform.Bank.ReviewExports
import AccountingPlatform.Lib.DecimalText
import AccountingPlatform.Lib.Csv
import AccountingPlatform.Lib.JsonText
import AccountingPlatform.Lib.JsonTree
import AccountingPlatform.Lib.XmlTree
import AccountingPlatform.Bank.StatementParsing
import AccountingPlatform.Bank.ParsingClosure
import AccountingPlatform.Bank.ForeignContent
import AccountingPlatform.Bank.IntakeFidelity
import AccountingPlatform.Bank.AmountText
import AccountingPlatform.Scripts.AppendOnlyGate
import AccountingPlatform.Sessions.ConcurrentSafety
import AccountingPlatform.Postgres.CatalogResolution
import AccountingPlatform.Ingest.PublishedProposals
import AccountingPlatform.Ingest.BillingPull
import AccountingPlatform.Statements.EquityAndCash
