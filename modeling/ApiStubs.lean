import ApiStubs.Main
import ApiStubs.Proofs.FunctionAgreement
import ApiStubs.Proofs.Lua.KnownTypes
import ApiStubs.Proofs.Lua.Writing
import ApiStubs.Proofs.Teal.DeclaredOnce
import ApiStubs.Proofs.Disk.Folder
import ApiStubs.Proofs.Disk.Tree
import ApiStubs.Proofs.Generation.Packing
import ApiStubs.Proofs.Generation.Preparation
import ApiStubs.Proofs.Generation.Replacement
import ApiStubs.Proofs.Generation.Confinement
import ApiStubs.Proofs.Text.Blocks
import ApiStubs.Proofs.Value.Display
import ApiStubs.Proofs.Lua.Solid
import ApiStubs.Proofs.Lua.CodeLines
import ApiStubs.Proofs.Lua.Order
import ApiStubs.Proofs.Lua.Tags
import ApiStubs.Proofs.Naming
import ApiStubs.Proofs.Text.Occurrences
import ApiStubs.Proofs.Lua.Header
import ApiStubs.Proofs.Lua.Faults
import ApiStubs.Proofs.Teal.Faults
import ApiStubs.Proofs.Generation.Faults
import ApiStubs.Proofs.Settings.LeftAlone
import ApiStubs.Proofs.Types.Permissive
import ApiStubs.Proofs.Teal.Assembly
import ApiStubs.Proofs.Teal.KnownTypes
import ApiStubs.Proofs.Types.Regrouping
import ApiStubs.Proofs.Types.Widening
import ApiStubs.Proofs.Types.NormalForm
import ApiStubs.Proofs.Types.Substitution
import ApiStubs.Proofs.Types.Arrays
import ApiStubs.Proofs.Settings.Repetition
import ApiStubs.Proofs.Types.Override
import ApiStubs.Proofs.Teal.FieldTypes
import ApiStubs.Proofs.Placeholder
import ApiStubs.Proofs.Reference.Rereading
import ApiStubs.Proofs.Text.Markers
