import CardLink.Card.Request
import CardLink.Cipher.AesInverse
import CardLink.Cipher.DesInverse
import CardLink.Describe
import CardLink.IsoWrapping
import CardLink.Proofs.Plays
import CardLink.Proofs.Passes
import CardLink.Proofs.FailedHandshakes
import CardLink.Proofs.HandleSteps
import CardLink.Proofs.HandshakePlays
import CardLink.Proofs.FailedExchanges
import CardLink.Proofs.Chains
import CardLink.Proofs.ExchangePlays
import CardLink.Proofs.CommandRequests
import CardLink.Proofs.Agreements
import CardLink.Proofs.History
import CardLink.Proofs.Provenance
import CardLink.Proofs.HonestCard
import CardLink.Proofs.Lockstep
import CardLink.Proofs.ExchangeEffects
import CardLink.Proofs.NoDowngrade
import CardLink.Proofs.HandshakeCards
import CardLink.Proofs.FirstAuthentication
import CardLink.Proofs.LegacyAuthentication
import CardLink.Proofs.EndedSessions
import CardLink.Proofs.Transitions
import CardLink.Proofs.Coherence
import CardLink.Proofs.Frames
import CardLink.Proofs.Transparency
import CardLink.Proofs.SelectingCard
import CardLink.Proofs.Selections
import CardLink.Proofs.AnsweredChallenges
import CardLink.Proofs.CommandVectors
import CardLink.Proofs.RenewedAuthentication
import CardLink.Proofs.CodecRoundTrips
import CardLink.Proofs.AuthenticReplies
import CardLink.Proofs.ChainEnds
import CardLink.Proofs.KeyForms
import CardLink.Proofs.PaddedStrings
import CardLink.Proofs.KeyCryptograms
import CardLink.Proofs.LegacyProtection
import CardLink.Proofs.StoredData
import CardLink.Proofs.SeparateInputs
import CardLink.Proofs.ShortApdus
import CardLink.Proofs.DerivationInputs
import CardLink.Proofs.ChainedBuffers
import CardLink.Proofs.EchoedNonces
