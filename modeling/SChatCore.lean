import SChatCore.Accord.Agreement
import SChatCore.Accord.Consent
import SChatCore.Accord.Refusal
import SChatCore.Attach.Integrity
import SChatCore.Attach.Plan
import SChatCore.Capability.Off
import SChatCore.Engine.Indicators
import SChatCore.Engine.Profile
import SChatCore.Erasure.Burn
import SChatCore.Erasure.Copies
import SChatCore.Isolation.Plaintext
import SChatCore.Ledger.Atomic
import SChatCore.Ledger.Crossing
import SChatCore.Ledger.Custody
import SChatCore.Ledger.Gapless
import SChatCore.Ledger.Terminal
import SChatCore.Pair.Cut
import SChatCore.Pair.Round
import SChatCore.Pairing.Agreement
import SChatCore.Pairing.Broken
import SChatCore.Pairing.Keys
import SChatCore.Pairing.Replay
import SChatCore.Repair.History
import SChatCore.Stickers.Interference
import SChatCore.Stickers.Progress
import SChatCore.Store.Hex
import SChatCore.Store.Migration
import SChatCore.Store.Tombstones
import SChatCore.Transport.Circumvention
import SChatCore.Transport.Framing
import SChatCore.Transport.Heal
import SChatCore.Transport.KillSwitch
import SChatCore.Transport.Seen
import SChatCore.Transport.Sender
import SChatCore.Transport.Services
import SChatCore.Vault.Unlock
