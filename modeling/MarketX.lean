import MarketX.Proofs.ReleaseRace
import MarketX.Proofs.InventoryLedger
import MarketX.Proofs.PaidOrders
import MarketX.Proofs.ReservationSerializability
import MarketX.Proofs.ListingLevels
import MarketX.Proofs.PaymentRace
import MarketX.Proofs.StreamAgreement
import MarketX.Proofs.IdempotencyGate
import MarketX.Proofs.TokenRace
import MarketX.Proofs.WebhookReplay
import MarketX.Proofs.SlidingWindow
import MarketX.Proofs.RejectedRequests
import MarketX.Proofs.ThrottleWindows
import MarketX.Proofs.RedactedHeaders
import MarketX.Proofs.PasswordReset
import MarketX.Proofs.ManualVerification
import MarketX.Proofs.OrderPoints
import MarketX.Proofs.AccountLockout
import MarketX.Proofs.WalletKeys
import MarketX.Proofs.SubscriptionMirror
import MarketX.Proofs.CacheMap
import MarketX.Proofs.ArchivedRows
import MarketX.Proofs.DeliveryRecord
import MarketX.Proofs.Conversions
import MarketX.Proofs.ResolutionSplit
import MarketX.Proofs.RolledBackNotices
import MarketX.Proofs.VariantSums
import MarketX.Proofs.DisputeStatuses
import MarketX.Proofs.ReturnedItems
import MarketX.Proofs.InterruptedReleases
import MarketX.Proofs.ReleaseChoice
import MarketX.Proofs.CouponBounds
import MarketX.Proofs.RunningBalances
import MarketX.Proofs.WebhookAuthenticity
import MarketX.Proofs.WebhookSignatures
import MarketX.Proofs.RateLimitIsolation
import MarketX.Proofs.RateLimitReadings
import MarketX.Proofs.StoredOrderMoney
import MarketX.Proofs.PriceHistoryRows
import MarketX.Proofs.PaymentStreams
import MarketX.Proofs.InterruptedShipments
import MarketX.Auth.SocialLogin
import MarketX.Security.AuditedCalls
import MarketX.Notifications.RetryStrategy
import MarketX.Products.CategoriesService
import MarketX.Products.WishlistsService
import MarketX.Proofs.PurchasePairs
import MarketX.Proofs.Recommendations
import MarketX.Proofs.VerifiedUsers
import MarketX.FeatureFlags.FeatureFlagService
import MarketX.Currency.CurrencyInterceptor
import MarketX.Media.MediaService
import MarketX.Audit.AuditService
import MarketX.Proofs.PurgedRecords
