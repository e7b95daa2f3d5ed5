import Numerus.Binary64.Reader
import Numerus.Catalog.Build
import Numerus.DefaultRules.Basic
import Numerus.Diagnostic.Display
import Numerus.Diagnostic.Template
import Numerus.Document.Reader
import Numerus.Locale.Standard
import Numerus.Rule.Descent
import Numerus.Rule.Cutting
import Numerus.Rule.RoundTrip
import Numerus.Selection
import Numerus.Text.Cursor
import Numerus.Vocabulary
import Numerus.Proofs.Grammar
import Numerus.Proofs.Steps
import Numerus.Proofs.Reading
import Numerus.Proofs.Acceptance
import Numerus.Proofs.Reassociation
import Numerus.Proofs.RoundTrip
import Numerus.Proofs.Exactness
import Numerus.Proofs.Shallow
import Numerus.Proofs.Meaning
import Numerus.Proofs.Build
import Numerus.Proofs.LeastCategory
import Numerus.Proofs.VisibleDigits
import Numerus.Proofs.DigitLimits
import Numerus.Proofs.Canonical
import Numerus.Proofs.Placement
import Numerus.Proofs.Refusals
import Numerus.Proofs.Beginnings
import Numerus.Proofs.FirstWrongToken
import Numerus.Proofs.Descent
import Numerus.Proofs.Compilation
import Numerus.Proofs.Validity
import Numerus.Proofs.Printable
import Numerus.Proofs.TagGrammar
import Numerus.Proofs.LocaleTag
import Numerus.Proofs.ListedNames
import Numerus.Proofs.Restatement
import Numerus.Proofs.Arrangement
import Numerus.Proofs.SparseTable
import Numerus.Proofs.Clipping
import Numerus.Proofs.Magnitude
import Numerus.Proofs.DecodedRules
import Numerus.Proofs.DecimalText
import Numerus.Proofs.ShortestText
import Numerus.Proofs.Unwritable
import Numerus.Proofs.Spelling
import Numerus.Proofs.Fragments
import Numerus.Proofs.Location
import Numerus.Proofs.Blanks
import Numerus.Proofs.Stripping
import Numerus.Proofs.BlankTexts
import Numerus.Proofs.Munch
import Numerus.Proofs.Respelling
import Numerus.Proofs.JsonText
import Numerus.Proofs.Records
import Numerus.Proofs.LineBreaks
import Numerus.Proofs.Wordings
import Numerus.Proofs.SingleLines
