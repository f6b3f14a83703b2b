import CommandBot.Filter.Standard
import CommandBot.Proofs.Conditionals
import CommandBot.Proofs.Resetting
import CommandBot.Proofs.PlaceholderScanning
import CommandBot.Proofs.EmptyMessages
import CommandBot.Proofs.Places
import CommandBot.Proofs.Pipelines
import CommandBot.Proofs.RoleGains
import CommandBot.Proofs.BrokenRows
import CommandBot.Proofs.Failing
import CommandBot.Proofs.WordsLeft
import CommandBot.Proofs.HandingOn
import CommandBot.Proofs.Untouched
import CommandBot.Proofs.FirstEntries
import CommandBot.Proofs.EncodedFetch
import CommandBot.Proofs.Targets
import CommandBot.Proofs.Nesting
import CommandBot.Proofs.Starting
