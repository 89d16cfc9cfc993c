import SpaceInvaders.Clocked.Run
import SpaceInvaders.Clocked.TwoDomain
import SpaceInvaders.Clocked.RowScan
import SpaceInvaders.Clocked.RowStarts
import SpaceInvaders.Clocked.Streamer
import SpaceInvaders.Clocked.ShiftRegister
import SpaceInvaders.Clocked.Cascade
import SpaceInvaders.Clocked.Conveyor
import SpaceInvaders.Clocked.Ring
import SpaceInvaders.Raster
import SpaceInvaders.Game.Fsm
import SpaceInvaders.Game.FsmWalk
import SpaceInvaders.Game.Flags
import SpaceInvaders.Enemy.Drawer
import SpaceInvaders.Enemy.Counters
import SpaceInvaders.Enemy.Pass
import SpaceInvaders.Enemy.Fleet
import SpaceInvaders.Enemy.Hit
import SpaceInvaders.Enemy.Formation
import SpaceInvaders.Enemy.Refine
import SpaceInvaders.Enemy.Bounce
import SpaceInvaders.Enemy.Walls
import SpaceInvaders.Enemy.Descent
import SpaceInvaders.Enemy.Finished
import SpaceInvaders.Enemy.Array
import SpaceInvaders.Enemy.Merge
import SpaceInvaders.Enemy.Drift
import SpaceInvaders.ColorMapper
import SpaceInvaders.Composite
import SpaceInvaders.Enemy.Kills
import SpaceInvaders.Enemy.GameOver
import SpaceInvaders.Player.Motion
import SpaceInvaders.Player.Screen
import SpaceInvaders.Player.Bullet
import SpaceInvaders.Player.Sprite
import SpaceInvaders.Player.Stream
import SpaceInvaders.Background.Drawer
import SpaceInvaders.Background.Picture
import SpaceInvaders.Sprites.Flag
import SpaceInvaders.Sprites.Rows
import SpaceInvaders.Console
import SpaceInvaders.Launch
import SpaceInvaders.Restart
import SpaceInvaders.Calls.Call
import SpaceInvaders.Bytes.Records
import SpaceInvaders.UsbKb.Pio
import SpaceInvaders.UsbKb.MainLoop
import SpaceInvaders.UsbKb.Display
import SpaceInvaders.UsbKb.Keycode
import SpaceInvaders.Bytes.Memory
import SpaceInvaders.UsbKb.Max3421e
import SpaceInvaders.UsbKb.Transfer
import SpaceInvaders.UsbKb.Polling
import SpaceInvaders.UsbKb.Control
import SpaceInvaders.UsbKb.Hid
import SpaceInvaders.UsbKb.Task
import SpaceInvaders.UsbKb.System
import SpaceInvaders.UsbKb.Reaches
import SpaceInvaders.UsbKb.Safety
import SpaceInvaders.UsbKb.Program
import SpaceInvaders.UsbKb.Stages
import SpaceInvaders.UsbKb.Descriptors
import SpaceInvaders.UsbKb.Strings
import SpaceInvaders.Bytes.LittleEndian
import SpaceInvaders.Sprites.BinaryGenerator
import SpaceInvaders.Spi.Core
import SpaceInvaders.Spi.Exchange
import SpaceInvaders.Spi.Driver
import SpaceInvaders.Spi.Stage
import SpaceInvaders.Spi.Access
import SpaceInvaders.Spi.Transaction
import SpaceInvaders.Spi.Link
import SpaceInvaders.Spi.Traffic
import SpaceInvaders.Vga.Controller
import SpaceInvaders.Vga.Frame
import SpaceInvaders.Player.Beam
import SpaceInvaders.Lab8.Board
import SpaceInvaders.Lab8.Ship
import SpaceInvaders.Lab8.Frames
import SpaceInvaders.Lab8.Picture
import SpaceInvaders.Lab8.Invaders
import SpaceInvaders.Dram.Chip
import SpaceInvaders.Sdram.Efifo
import SpaceInvaders.Sdram.Controller
import SpaceInvaders.Sdram.Pins
import SpaceInvaders.Sdram.Phases
import SpaceInvaders.Sdram.Edges
import SpaceInvaders.Sdram.Serving
import SpaceInvaders.Sdram.Waking
import SpaceInvaders.Sdram.Memory
import SpaceInvaders.Sdram.Refresh
import SpaceInvaders.Sdram.Service
import SpaceInvaders.Sdram.ClockCrosser
import SpaceInvaders.Sdram.Crossing
