import MultiAcademy.Ai.AtRisk
import MultiAcademy.Ai.TimetableSolver
import MultiAcademy.Control.BilledWindows
import MultiAcademy.Control.BlocksAsWritten
import MultiAcademy.Control.BookHistory
import MultiAcademy.Control.ConfigVersion
import MultiAcademy.Control.DataRequests
import MultiAcademy.Control.DunningProgress
import MultiAcademy.Control.FailoverScope
import MultiAcademy.Control.Incidents
import MultiAcademy.Control.Offboarding
import MultiAcademy.Control.PassChanges
import MultiAcademy.Control.Provisioning
import MultiAcademy.Control.SingleOperator
import MultiAcademy.Control.StaffSignIn
import MultiAcademy.Payment.WebhookGateways
import MultiAcademy.School.AcademicListFreshness
import MultiAcademy.School.ActivationCodes
import MultiAcademy.School.AnnouncementRuns
import MultiAcademy.School.ApprovedResults
import MultiAcademy.School.AuthorityRaces
import MultiAcademy.School.BiometricCeremonies
import MultiAcademy.School.CbtRuns
import MultiAcademy.School.Conversations
import MultiAcademy.School.CustomGrants
import MultiAcademy.School.ExitPassValidity
import MultiAcademy.School.FrozenWards
import MultiAcademy.School.HostelBeds
import MultiAcademy.School.Library
import MultiAcademy.School.LoginAddressesHeld
import MultiAcademy.School.ManualCodes
import MultiAcademy.School.Notifications
import MultiAcademy.School.OfflineSync
import MultiAcademy.School.OnboardingCompletes
import MultiAcademy.School.PolicySnapshot
import MultiAcademy.School.RefreshTokens
import MultiAcademy.School.SaasSettlement
import MultiAcademy.School.ScoreBatches
import MultiAcademy.School.ScoreClassification
import MultiAcademy.School.SignInRefusals
import MultiAcademy.School.StudentRemoval
import MultiAcademy.School.SwapOrders
import MultiAcademy.School.TeacherScope
import MultiAcademy.Tutor.Mastery
import MultiAcademy.Tutor.QuizTurns
import MultiAcademy.Tutoring.Bookings
import MultiAcademy.Control.ClientAddress
import MultiAcademy.Control.TermSchedules
import MultiAcademy.Ai.Chunks
import MultiAcademy.School.EffectiveFeatures
import MultiAcademy.Control.RateLimits
import MultiAcademy.Control.RegistrationGates
import MultiAcademy.School.NetworkRules
