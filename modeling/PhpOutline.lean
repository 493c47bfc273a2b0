import PhpOutline.Declaration.Entry
import PhpOutline.Outline
import PhpOutline.Php.Reader
import PhpOutline.Proofs.Syntax.Walk
import PhpOutline.Proofs.Text.Utf8
import PhpOutline.Settings
import PhpOutline.Proofs.Declaration.Namespace
import PhpOutline.Proofs.Declaration.Readable
import PhpOutline.Proofs.Declaration.Naming
import PhpOutline.Proofs.Declaration.Fields
import PhpOutline.Proofs.Declaration.Nameable
import PhpOutline.Proofs.Outline.Entries
import PhpOutline.Proofs.Outline.Failure
import PhpOutline.Proofs.Declaration.Alike
import PhpOutline.Proofs.Outline.Wrapping
import PhpOutline.Proofs.Syntax.Order
import PhpOutline.Proofs.Search
import PhpOutline.Proofs.Declaration.Surroundings
import PhpOutline.Proofs.Syntax.Paired
import PhpOutline.Proofs.Outline.Appending
import PhpOutline.Proofs.Syntax.Inserted
import PhpOutline.Proofs.Outline.Comments
import PhpOutline.Proofs.Declaration.Members
import PhpOutline.Proofs.Outline.Members
import PhpOutline.Proofs.Declaration.Query
import PhpOutline.Proofs.Outline.Lookup
import PhpOutline.Declaration.Dispatch
import PhpOutline.Proofs.Declaration.Dispatch
import PhpOutline.Proofs.Outline.Partition
import PhpOutline.Proofs.Syntax.Faults
import PhpOutline.Proofs.Text.Encoding
import PhpOutline.Proofs.Related
import PhpOutline.Proofs.Reading
import PhpOutline.Proofs.Outline.Strictness
import PhpOutline.Proofs.Declaration.FullNames
import PhpOutline.Proofs.Declaration.Spelling
import PhpOutline.Proofs.Declaration.NodeText
import PhpOutline.Proofs.Text.Lowercase
import PhpOutline.Proofs.Declaration.DefineCalls
import PhpOutline.Proofs.Outline.ShortNames
import PhpOutline.Proofs.Outline.AnonymousNames
import PhpOutline.Proofs.Declaration.DefineEntries
import PhpOutline.Proofs.Declaration.SingleQuoted
import PhpOutline.Proofs.Declaration.Interpolation
import PhpOutline.Proofs.Declaration.Relocation
import PhpOutline.Proofs.Syntax.Retyped
import PhpOutline.Proofs.Outline.BrokenRoot
