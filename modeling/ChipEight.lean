import ChipEight.Device.Faulty
import ChipEight.Emulator.Command
import ChipEight.Main
import ChipEight.Proofs.Checked.Cycle
import ChipEight.Proofs.Checked.Loading
import ChipEight.Proofs.Console.Account
import ChipEight.Proofs.Console.Faults
import ChipEight.Proofs.Console.SoundLaw
import ChipEight.Proofs.Console.Timers
import ChipEight.Proofs.Console.Typing
import ChipEight.Proofs.Device.Syncs
import ChipEight.Proofs.Emulator.Calls
import ChipEight.Proofs.Emulator.Draws
import ChipEight.Proofs.Emulator.Isolation
import ChipEight.Proofs.Emulator.KeyMoves
import ChipEight.Proofs.Emulator.Loads
import ChipEight.Proofs.Emulator.StraightLine
import ChipEight.Proofs.Emulator.Strictness
import ChipEight.Proofs.Emulator.Waiting
import ChipEight.Proofs.Machine.Arithmetic
import ChipEight.Proofs.Machine.Decimals
import ChipEight.Proofs.Machine.Pixels
import ChipEight.Proofs.Machine.Transfer
import ChipEight.Proofs.Screen.Counting
import ChipEight.Proofs.Screen.Pictures
import ChipEight.Proofs.Screen.Planes
import ChipEight.Proofs.Screen.Sprites
import ChipEight.Proofs.Terminal.Painting
