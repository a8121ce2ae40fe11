import FirmwareVars.Main
import FirmwareVars.Sandbox
import FirmwareVars.Host.Machine
import FirmwareVars.Proofs.NameRecord.RoundTrip
import FirmwareVars.Proofs.Store.Refinement
import FirmwareVars.Proofs.EntryName.Grammar
import FirmwareVars.Proofs.EntryName.RoundTrip
import FirmwareVars.Proofs.Store.Packing
import FirmwareVars.Proofs.Store.Addressing
import FirmwareVars.Proofs.Host.Rooted
import FirmwareVars.Proofs.Store.Faults
import FirmwareVars.Proofs.Store.Confinement
import FirmwareVars.Proofs.Program.Copy
import FirmwareVars.Proofs.NameRecord.Walks
import FirmwareVars.Proofs.NameRecord.Cut
import FirmwareVars.Proofs.Program.Settings
import FirmwareVars.Proofs.Store.Race
import FirmwareVars.Proofs.Store.Reading
import FirmwareVars.Proofs.Attributes.Grammar
import FirmwareVars.Proofs.Store.Seeding
import FirmwareVars.Proofs.Program.Lines
import FirmwareVars.Proofs.Program.Words
import FirmwareVars.Proofs.Program.Output
