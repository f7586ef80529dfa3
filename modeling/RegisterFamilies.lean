import RegisterFamilies.Catalog.Basic
import RegisterFamilies.Catalog.Error
import RegisterFamilies.Catalog.Lemmas
import RegisterFamilies.Catalog.Query
import RegisterFamilies.Catalog.Table
import RegisterFamilies.Catalog.Validate
import RegisterFamilies.Catalog.Verdict
import RegisterFamilies.Catalog.WellFormed
import RegisterFamilies.Decimal
import RegisterFamilies.Enumeration.Basic
import RegisterFamilies.Enumeration.Json
import RegisterFamilies.Event
import RegisterFamilies.Json.Basic
import RegisterFamilies.Json.Reader
import RegisterFamilies.Json.Writer
import RegisterFamilies.Main
import RegisterFamilies.Proofs.Catalog.Aliasing
import RegisterFamilies.Proofs.Catalog.Collisions
import RegisterFamilies.Proofs.Catalog.Consistent
import RegisterFamilies.Proofs.Catalog.FirstDefect
import RegisterFamilies.Proofs.Catalog.Joining
import RegisterFamilies.Proofs.Catalog.Outcomes
import RegisterFamilies.Proofs.Catalog.Ownership
import RegisterFamilies.Proofs.Catalog.Rebuilding
import RegisterFamilies.Proofs.Catalog.Reordering
import RegisterFamilies.Proofs.Catalog.Resizing
import RegisterFamilies.Proofs.Catalog.Siblings
import RegisterFamilies.Proofs.Catalog.TieBreak
import RegisterFamilies.Proofs.Catalog.Validation
import RegisterFamilies.Proofs.Catalog.Walks
import RegisterFamilies.Proofs.List.First
import RegisterFamilies.Proofs.Text.Hexadecimal
import RegisterFamilies.Proofs.Text.Trimming
import RegisterFamilies.Proofs.WidthSet.Collecting
import RegisterFamilies.Proofs.WidthSet.Reading
import RegisterFamilies.Proofs.WidthSet.Simulation
import RegisterFamilies.Proofs.WidthSet.Writing
import RegisterFamilies.Proofs.X86.Fields
import RegisterFamilies.Proofs.X86.Labels
import RegisterFamilies.Proofs.X86.Rewriting
import RegisterFamilies.Proofs.X86.Spelling
import RegisterFamilies.RegisterError
import RegisterFamilies.Text.Layout
import RegisterFamilies.Text.Numeral
import RegisterFamilies.Text.Outline
import RegisterFamilies.Text.Printable
import RegisterFamilies.Traced
import RegisterFamilies.Width
import RegisterFamilies.Width.Order
import RegisterFamilies.WidthSet.Basic
import RegisterFamilies.WidthSet.Change
import RegisterFamilies.WidthSet.Json
import RegisterFamilies.WidthSet.Lemmas
import RegisterFamilies.X86.Basic
import RegisterFamilies.X86.SiblingTable
import RegisterFamilies.X86.Spelling
import RegisterFamilies.X86.Walk
