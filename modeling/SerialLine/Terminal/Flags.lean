/-!
# SerialLine.Terminal.Flags — the bits of a terminal's flag words

The four flag words of a control block, with the bits and masks that the library reads or
writes.
-/

namespace SerialLine

/-- A flag word. -/
abbrev Flags := UInt32

namespace Flags

/-- Whether two words share a bit. -/
def meets (w mask : Flags) : Bool := w &&& mask != 0

/-- The word without the bits of a mask. -/
def without (w mask : Flags) : Flags := w &&& ~~~mask

/-! ## Input -/

def IGNBRK : Flags := 0x1
def BRKINT : Flags := 0x2
def IGNPAR : Flags := 0x4
def PARMRK : Flags := 0x8
def INPCK : Flags := 0x10
def ISTRIP : Flags := 0x20
def INLCR : Flags := 0x40
def IGNCR : Flags := 0x80
def ICRNL : Flags := 0x100
def IUCLC : Flags := 0x200
def IXON : Flags := 0x400
def IXANY : Flags := 0x800
def IXOFF : Flags := 0x1000
def IMAXBEL : Flags := 0x2000

/-! ## Output -/

def OPOST : Flags := 0x1
def ONLCR : Flags := 0x4
def OCRNL : Flags := 0x8
def ONOCR : Flags := 0x10
def ONLRET : Flags := 0x20

/-! ## Control -/

/-- The field that holds the number of data bits. -/
def CSIZE : Flags := 0x30
def CS5 : Flags := 0x0
def CS6 : Flags := 0x10
def CS7 : Flags := 0x20
def CS8 : Flags := 0x30
def CSTOPB : Flags := 0x40
def CREAD : Flags := 0x80
def PARENB : Flags := 0x100
def PARODD : Flags := 0x200
def HUPCL : Flags := 0x400
def CLOCAL : Flags := 0x800
/-- The field that holds the code of the output speed. -/
def CBAUD : Flags := 0x100F
/-- The code of a speed that stands in the numeric fields. -/
def BOTHER : Flags := 0x1000
/-- The field that holds the code of the input speed. -/
def CIBAUD : Flags := 0x100F0000
def CMSPAR : Flags := 0x40000000
def CRTSCTS : Flags := 0x80000000

/-! ## Local -/

def ISIG : Flags := 0x1
def ICANON : Flags := 0x2
def ECHO : Flags := 0x8
def ECHOE : Flags := 0x10
def ECHOK : Flags := 0x20
def ECHONL : Flags := 0x40
def ECHOCTL : Flags := 0x200
def ECHOPRT : Flags := 0x400
def ECHOKE : Flags := 0x800
def IEXTEN : Flags := 0x8000

/-! ## Masks -/

/-- The control bits that frame a character, apart from stick parity. -/
def framing : Flags := CSIZE ||| CSTOPB ||| PARENB ||| PARODD

/-- The input bits that say what becomes of parity errors. -/
def parityInput : Flags := INPCK ||| IGNPAR ||| PARMRK

/-- The input bits of software flow control. -/
def softwareFlow : Flags := IXON ||| IXOFF

/-- The control bits that hold the codes of both speeds. -/
def speeds : Flags := CBAUD ||| CIBAUD

/-- The control bits that raw mode clears. -/
def rawControlOff : Flags := CRTSCTS ||| CSIZE ||| PARENB ||| CSTOPB

/-- The control bits that raw mode sets. -/
def rawControlOn : Flags := CS8 ||| CREAD ||| CLOCAL ||| HUPCL

/-- The input bits that raw mode clears. -/
def rawInputOff : Flags :=
  BRKINT ||| PARMRK ||| ISTRIP ||| INLCR ||| IGNCR ||| ICRNL ||| IXON ||| IXOFF ||| IXANY |||
    INPCK ||| IGNPAR

/-- The output bits that raw mode clears. -/
def rawOutputOff : Flags := OPOST ||| ONLCR ||| OCRNL ||| ONOCR ||| ONLRET

/-- The local bits that raw mode clears. -/
def rawLocalOff : Flags :=
  ECHO ||| ECHOE ||| ECHOK ||| ECHONL ||| ECHOCTL ||| ECHOPRT ||| ECHOKE ||| ICANON ||| ISIG |||
    IEXTEN

end Flags

end SerialLine
