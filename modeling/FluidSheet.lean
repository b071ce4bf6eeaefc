import FluidSheet.Main
import FluidSheet.Sheet.Edit
import FluidSheet.Proofs.Conversion.Frame
import FluidSheet.Proofs.Conversion.Isolation
import FluidSheet.Proofs.Conversion.Repeat
import FluidSheet.Proofs.Conversion.SecondRun
import FluidSheet.Proofs.Conversion.Winner
import FluidSheet.Proofs.Conversion.Edits
import FluidSheet.Proofs.Conversion.Emission
import FluidSheet.Proofs.Conversion.Account
import FluidSheet.Proofs.Command.Alone
import FluidSheet.Proofs.Conversion.Independence
import FluidSheet.Proofs.Conversion.Pieces
import FluidSheet.Proofs.Conversion.Skipped
import FluidSheet.Proofs.Conversion.Markers
import FluidSheet.Proofs.Conversion.Presence
import FluidSheet.Proofs.Conversion.Properties
import FluidSheet.Proofs.Json.Record
import FluidSheet.Proofs.Json.Sorted
import FluidSheet.Proofs.Json.Decode
import FluidSheet.Proofs.Json.Text
import FluidSheet.Proofs.Sheet.Json
import FluidSheet.Proofs.Length.Matches
import FluidSheet.Proofs.Length.Settled
import FluidSheet.Proofs.Options.Json
import FluidSheet.Proofs.Options.Merge
import FluidSheet.Proofs.Conversion.Loop
import FluidSheet.Proofs.Sheet.Css
import FluidSheet.Proofs.Json.Parts
import FluidSheet.Proofs.Options.Read
import FluidSheet.Proofs.Options.Exclude
import FluidSheet.Proofs.Toml.Json
import FluidSheet.Proofs.Command.Config
import FluidSheet.Proofs.Length.PatternText
import FluidSheet.Proofs.Length.Asked
