import TypeRecovery.Json.Double
import TypeRecovery.Main
import TypeRecovery.Proofs.Arena.Import
import TypeRecovery.Proofs.Dump.Directory
import TypeRecovery.Proofs.Dump.Probing
import TypeRecovery.Proofs.Header.Identifiers
import TypeRecovery.Proofs.Header.Names
import TypeRecovery.Proofs.Header.Order
import TypeRecovery.Proofs.Import.LabelPass
import TypeRecovery.Proofs.Import.Renumbering
import TypeRecovery.Proofs.Import.SignaturePass
import TypeRecovery.Proofs.Import.Sizes
import TypeRecovery.Proofs.Layout.Embedding
import TypeRecovery.Proofs.Layout.FieldOrder
import TypeRecovery.Proofs.Layout.Slots
import TypeRecovery.Proofs.Layout.Trailer
import TypeRecovery.Proofs.Layout.Words
import TypeRecovery.Proofs.Memory.Import
import TypeRecovery.Proofs.Signature.Convention
