import ScenarioTables.Document
import ScenarioTables.NameTemplate.Pattern
import ScenarioTables.Installation
import ScenarioTables.Report
import ScenarioTables.Proofs.Inlining
import ScenarioTables.Proofs.Calls
import ScenarioTables.Proofs.Opacity
import ScenarioTables.Proofs.Resolution
import ScenarioTables.Proofs.History
import ScenarioTables.Proofs.Columns
import ScenarioTables.Proofs.Layouts
import ScenarioTables.Proofs.Shown
import ScenarioTables.Proofs.FailedCalls
import ScenarioTables.Proofs.Refusal
import ScenarioTables.Proofs.Extension
import ScenarioTables.Proofs.Rearrangement
import ScenarioTables.Proofs.Admission
import ScenarioTables.Proofs.Installing
import ScenarioTables.Proofs.Registrations
import ScenarioTables.Proofs.LongestNames
import ScenarioTables.Proofs.Spelling
import ScenarioTables.Proofs.Overflow
import ScenarioTables.Proofs.Transcript
import ScenarioTables.Proofs.ByteOrder
import ScenarioTables.Proofs.Undeclared
import ScenarioTables.Proofs.Descent
import ScenarioTables.Proofs.Merging
import ScenarioTables.Proofs.Declarations
import ScenarioTables.Proofs.Positions
import ScenarioTables.Proofs.Stability
import ScenarioTables.Proofs.PatternTexts
import ScenarioTables.Proofs.Reports
