import Colloquy.Json.Writer
import Colloquy.Rule.Display
import Colloquy.Settings.Json
import Colloquy.Settings.Toml
import Colloquy.Dialogue.Basic
import Colloquy.Proofs.Text.Lower
import Colloquy.Proofs.Numeral
import Colloquy.Proofs.Keyword
import Colloquy.Proofs.Document.Entry
import Colloquy.Proofs.Document.Problem
import Colloquy.Proofs.Document.Acceptance
import Colloquy.Proofs.Document.Json
import Colloquy.Proofs.Document.Reload
import Colloquy.Proofs.Calendar.Moment
import Colloquy.Proofs.Calendar.Elapsed
import Colloquy.Proofs.Calendar.Window
import Colloquy.Proofs.Flag.Packed
import Colloquy.Proofs.Flag.Store
import Colloquy.Proofs.Flag.History
import Colloquy.Proofs.Dialogue.FlagEffect
import Colloquy.Proofs.World.Request
import Colloquy.Proofs.World.Registry
import Colloquy.Proofs.World.Division
import Colloquy.Proofs.World.Purse
import Colloquy.Proofs.World.Change
import Colloquy.Proofs.Dialogue.Attempt
import Colloquy.Proofs.Dialogue.Selection
import Colloquy.Proofs.Dialogue.Commit
import Colloquy.Proofs.Dialogue.Failure
import Colloquy.Proofs.Dialogue.Crash
import Colloquy.Proofs.Dialogue.Course
import Colloquy.Proofs.Dialogue.QuestCourse
import Colloquy.Proofs.Dialogue.FlagCourse
import Colloquy.Proofs.Dialogue.Age
import Colloquy.Proofs.Dialogue.Talk
import Colloquy.Proofs.Dialogue.Gate
import Colloquy.Proofs.Dialogue.Footprint
import Colloquy.Proofs.Dialogue.Conservation
import Colloquy.Proofs.World.Agreement
import Colloquy.Proofs.Dialogue.Likeness
import Colloquy.Proofs.Dialogue.Names
import Colloquy.Proofs.Dialogue.Interleaving
import Colloquy.Proofs.Calendar.Overdraft
import Colloquy.Proofs.Keyword.Spoken
import Colloquy.Proofs.Keyword.Anywhere
import Colloquy.Proofs.Document.Spelling
import Colloquy.Proofs.Flag.Mention
import Colloquy.Proofs.Dialogue.Taking
import Colloquy.Proofs.Dialogue.Log
import Colloquy.Proofs.Placeholder
import Colloquy.Proofs.Calendar.Grammar
