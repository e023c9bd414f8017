import TypeGuards.Interface.OfData
import TypeGuards.Main
import TypeGuards.Proofs.Command
import TypeGuards.Proofs.Comments
import TypeGuards.Proofs.Config.Reporting
import TypeGuards.Proofs.Display.Summary
import TypeGuards.Proofs.FirstError
import TypeGuards.Proofs.Guard.Conjunction
import TypeGuards.Proofs.Guard.Hygiene
import TypeGuards.Proofs.Guard.ImportLine
import TypeGuards.Proofs.Logging.Fallback
import TypeGuards.Proofs.Logging.Levels
import TypeGuards.Proofs.Naming
import TypeGuards.Proofs.Precedence
import TypeGuards.Proofs.Redeclaration
import TypeGuards.Proofs.Registration
import TypeGuards.Proofs.Run.Decoding
import TypeGuards.Proofs.Run.ReadingBack
import TypeGuards.Proofs.Shifting
