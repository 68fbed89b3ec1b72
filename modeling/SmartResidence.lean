import SmartResidence.Proof.Settlement
import SmartResidence.Proof.FundCash
import SmartResidence.Proof.CallbackBinding
import SmartResidence.Proof.DepositReturns
import SmartResidence.Proof.SettlementRaces
import SmartResidence.Proof.CreditRaces
import SmartResidence.Proof.Availability
import SmartResidence.Proof.BankMatches
import SmartResidence.Proof.BlacklistGates
import SmartResidence.Proof.BookingMoney
import SmartResidence.Proof.BookingTenancy
import SmartResidence.Proof.NumberRaces
import SmartResidence.Proof.OvernightCap
import SmartResidence.Proof.SweepRaces
import SmartResidence.Proof.SoftBlocks
import SmartResidence.Proof.ResolutionRaces
import SmartResidence.Proof.LostSettings
import SmartResidence.Proof.BallotRecords
import SmartResidence.Proof.ProxyExclusivity
import SmartResidence.Proof.ParcelHandover
import SmartResidence.Proof.HandoverPhotos
import SmartResidence.Proof.DefectHistory
import SmartResidence.Proof.PermitValidity
import SmartResidence.Proof.LoginProtection
import SmartResidence.Proof.SessionRevocation
import SmartResidence.Proof.QuietHours
import SmartResidence.Proof.AbilityUnion
import SmartResidence.Proof.SosAlerts
import SmartResidence.Proof.RoleWithdrawal
import SmartResidence.Proof.PublicationNotices
import SmartResidence.Proof.DocumentAccess
import SmartResidence.Proof.CommittedFiles
import SmartResidence.Proof.FileAccess
import SmartResidence.Proof.CodeExclusivity
import SmartResidence.Proof.TaxDocuments
import SmartResidence.Proof.RealtimeAccess
import SmartResidence.Proof.DelegatedAccess
import SmartResidence.Proof.SweepLocks
import SmartResidence.Proof.DataExport
import SmartResidence.Proof.ChartTree
import SmartResidence.Proof.PaymentSplit
import SmartResidence.Proof.FundReports
import SmartResidence.Proof.FrozenRegister
import SmartResidence.Proof.StatementRanges
import SmartResidence.Proof.AutomaticCheckOut
import SmartResidence.Procurement.BillDates
import SmartResidence.Proof.AccessRecompute
import SmartResidence.Proof.VisitorSettingsRead
import SmartResidence.Proof.RecurringWindows
import SmartResidence.Proof.ReadStatistics
import SmartResidence.Proof.ThreadPages
import SmartResidence.Proof.SessionWindow
import SmartResidence.Proof.PatrolGaps
import SmartResidence.Proof.WordCounts
import SmartResidence.Proof.ReportedValid
import SmartResidence.Proof.RoundRobin
import SmartResidence.Proof.DayStarts
