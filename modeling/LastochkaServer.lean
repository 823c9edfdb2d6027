import LastochkaServer.Guarantees.CacheAgreement
import LastochkaServer.Guarantees.CallTermination
import LastochkaServer.Guarantees.DefaultAccess
import LastochkaServer.Guarantees.DeleteRanges
import LastochkaServer.Guarantees.GroupOwnership
import LastochkaServer.Guarantees.OwnerProtection
import LastochkaServer.Guarantees.LeaderElection
import LastochkaServer.Guarantees.RingAgreement
import LastochkaServer.Guarantees.SessionCollection
import LastochkaServer.Guarantees.OnlineCount
import LastochkaServer.Guarantees.MessageSequence
import LastochkaServer.Guarantees.DecoderTotality
import LastochkaServer.Guarantees.NoLoginTokens
import LastochkaServer.Guarantees.TopicNames
import LastochkaServer.Guarantees.UserCacheRouting
import LastochkaServer.Guarantees.ProxyModes
import LastochkaServer.Guarantees.InviteConcurrency
import LastochkaServer.Guarantees.RequiredCredentials
import LastochkaServer.Guarantees.ServerTags
import LastochkaServer.Guarantees.AddressTags
import LastochkaServer.Guarantees.PendingReceipts
import LastochkaServer.Guarantees.SubscriberCount
import LastochkaServer.Guarantees.CacheReferences
import LastochkaServer.Guarantees.StoredCounts
import LastochkaServer.Guarantees.PresenceExchange
import LastochkaServer.Guarantees.SysTopic
import LastochkaServer.Guarantees.ModeUnions
import LastochkaServer.Guarantees.ReactionPaths
import LastochkaServer.Guarantees.ReactionHistory
import LastochkaServer.Guarantees.CallParties
import LastochkaServer.Guarantees.RingPlacement
import LastochkaServer.Guarantees.TokenRoundTrip
import LastochkaServer.Guarantees.CredentialTable
import LastochkaServer.Guarantees.RetryBudget
import LastochkaServer.Guarantees.LoginMigration
import LastochkaServer.Guarantees.SingleVerification
import LastochkaServer.Guarantees.AliasTags
import LastochkaServer.Guarantees.FailedSets
import LastochkaServer.Guarantees.ClientRoundTrip
import LastochkaServer.Guarantees.ServerRoundTrip
import LastochkaServer.Guarantees.FileTransfer
import LastochkaServer.Guarantees.MessageRanges
import LastochkaServer.Guarantees.AuthLookup
import LastochkaServer.Guarantees.CredentialDeletion
import LastochkaServer.Guarantees.UserIds
import LastochkaServer.Guarantees.NormalForms
import LastochkaServer.Guarantees.Slices
import LastochkaServer.Guarantees.Media
import LastochkaServer.Guarantees.PhoneForms
