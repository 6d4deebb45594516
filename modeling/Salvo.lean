import Salvo.CommandLine.Files
import Salvo.Main
import Salvo.Profile.Json
import Salvo.Proofs.Attack.Allocation
import Salvo.Proofs.Attack.Amount
import Salvo.Proofs.Attack.Characteristics
import Salvo.Proofs.Attack.FeelNoPain
import Salvo.Proofs.Attack.Overflow
import Salvo.Proofs.Attack.Skill
import Salvo.Proofs.Attack.Unread
import Salvo.Proofs.Batch.Division
import Salvo.Proofs.Batch.KillRates
import Salvo.Proofs.Batch.Lossless
import Salvo.Proofs.Batch.SeedBytes
import Salvo.Proofs.Dice.Faces
import Salvo.Proofs.Dice.Means
import Salvo.Proofs.Dice.Period
import Salvo.Proofs.Keyword.Categories
import Salvo.Proofs.Keyword.Parameters
import Salvo.Proofs.Report.Ranking
import Salvo.Proofs.Scenario.Kills
import Salvo.Proofs.Scenario.ReportedKeys
import Salvo.Proofs.Scenario.TableNames
import Salvo.Proofs.Scenario.Tracing
import Salvo.Proofs.Scenario.Validation
import Salvo.Proofs.Scenario.WeaponNames
import Salvo.Scenario.Json
