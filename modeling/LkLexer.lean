import LkLexer.Main
import LkLexer.Proofs.ClassMaps
import LkLexer.Proofs.CommentEnd
import LkLexer.Proofs.Concatenation
import LkLexer.Proofs.CursorRuns
import LkLexer.Proofs.Driving
import LkLexer.Proofs.Finality
import LkLexer.Proofs.LineBounds
import LkLexer.Proofs.LineOrder
import LkLexer.Proofs.Outcomes
import LkLexer.Proofs.Pointing
import LkLexer.Proofs.Progress
import LkLexer.Proofs.Readability
import LkLexer.Proofs.Refusal
import LkLexer.Proofs.Rendering
import LkLexer.Proofs.RuleOrder
import LkLexer.Proofs.Scanning
import LkLexer.Proofs.Spelling
import LkLexer.Proofs.Tiling
import LkLexer.Proofs.TokenLines
import LkLexer.Proofs.Trivia
import LkLexer.Proofs.Wording
