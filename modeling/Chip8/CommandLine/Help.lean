import Chip8.Keyboard.Layout

namespace Chip8.CommandLine

def usageLines : List String := [
  "usage: chip8emu [-h] [--frontend \x7bwindow,terminal\x7d] [--scale SCALE]",
  "                [--speed SPEED] [--shift-vy] [--seed SEED] [--info]",
  "                [--debug N] [--trace] [--verbose]",
  "                rom"]

def summary : String :=
  "CHIP8EMU -- CHIP-8 virtual machine.  " ++
    "Load a raw CHIP-8 program and run it in a window or a terminal."

def argumentLines : List String := [
  "positional arguments:",
  "  rom                   Path to the ROM file (raw CHIP-8 binary, loaded at",
  "                        0x200)",
  "",
  "options:",
  "  -h, --help            show this help message and exit",
  "  --frontend \x7bwindow,terminal\x7d, -f \x7bwindow,terminal\x7d",
  "                        Front end to use. Default: window.",
  "  --scale SCALE         Window scale factor (1-30). Default: 10.",
  "  --speed SPEED, -s SPEED",
  "                        Instructions per second. Default: 700.",
  "  --shift-vy            8xy6/8xyE shift Vy into Vx (COSMAC VIP behaviour)",
  "                        instead of shifting Vx.",
  "  --seed SEED           Seed for the random number instruction.",
  "  --info                Print ROM metadata and exit without launching the",
  "                        emulator.",
  "  --debug N             Run N instructions without a front end, print the",
  "                        registers and exit.",
  "  --trace               Print every executed instruction.",
  "  --verbose, -v         Increase log verbosity (-v for INFO, -vv for DEBUG)."]

def helpLines : List String :=
  usageLines ++ [""] ++ [summary] ++ [""] ++ argumentLines ++ [""] ++ Keyboard.chartLines

end Chip8.CommandLine
