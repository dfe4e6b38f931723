import Lox.Main
import Lox.Proofs.Execution.Mentioned
import Lox.Proofs.Execution.Room
import Lox.Proofs.Height
import Lox.Proofs.Layout
import Lox.Proofs.Places
import Lox.Proofs.Recovery.Segments
import Lox.Proofs.Session
import Lox.Proofs.Source.Literals
import Lox.Proofs.Source.Positions
import Lox.Proofs.Execution.Bindings
import Lox.Proofs.Source.Joined
import Lox.Proofs.Source.Strays
import Lox.Proofs.ReadBack
import Lox.Proofs.Display
import Lox.Proofs.Equality
import Lox.Proofs.Cursor.Nesting
import Lox.Proofs.Cursor.Progress
import Lox.Proofs.Scanner.Bounds
