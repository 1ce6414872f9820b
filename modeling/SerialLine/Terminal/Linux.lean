import SerialLine.Terminal.Driver

/-!
# SerialLine.Terminal.Linux — the driver for Linux

The kernel has a code for most standard rates and takes any other rate as a number under the
code `BOTHER`. It reports the effective speed as a number in either case.
-/

namespace SerialLine.Linux

open Flags

/-- The rates that the kernel has a code for, with their codes. -/
def speedCodes : List (UInt32 × Flags) :=
  [(0, 0), (50, 1), (75, 2), (110, 3), (134, 4), (150, 5), (200, 6), (300, 7), (600, 8),
   (1200, 9), (1800, 10), (2400, 11), (4800, 12), (9600, 13), (19200, 14), (38400, 15),
   (57600, 4097), (115200, 4098), (230400, 4099), (460800, 4100), (500000, 4101),
   (576000, 4102), (921600, 4103), (1000000, 4104), (1152000, 4105), (1500000, 4106),
   (2000000, 4107), (2500000, 4108), (3000000, 4109), (3500000, 4110), (4000000, 4111)]

/-- The code of a rate, if the kernel has one. -/
def speedCode? (rate : UInt32) : Option Flags := speedCodes.lookup rate

/-- The rate of a code, if it is one of the kernel's. -/
def codeRate? (code : Flags) : Option UInt32 :=
  (speedCodes.find? fun entry => entry.2 == code).map (·.1)

/-- The code that a speed is written with: standard speeds use the kernel's code where there
is one, every other speed uses `BOTHER`. -/
def baudCode : Baud → Flags
  | .standard rate _ => (speedCode? rate).getD BOTHER
  | .custom _ => BOTHER

/-- The block with both speeds replaced. -/
def setBaud (baud : Baud) (b : ControlBlock) : ControlBlock :=
  { b.editControl speeds (baudCode baud) with
    inputSpeed := baud.rate, outputSpeed := baud.rate }

/-- The driver for Linux. -/
def driver : Driver where
  family := .linux
  capabilities :=
    { customBaud := true, stickParity := true, exclusiveOpen := true, interruptCounts := true }
  encodeBaud baud := modify (setBaud baud)
  decodeBaud b := some (.ofRate b.outputSpeed)
  stickParity? := some CMSPAR
  prepareRaw b := { b.editInput IUCLC 0 with line := 0 }

end SerialLine.Linux
