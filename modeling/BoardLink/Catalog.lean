/-!
# The catalog of peripherals

Which driver belongs to which number in the board's table. Several drivers can share one hardware
block; the number decides how the host reads it.
-/

namespace BoardLink

/-- A peripheral that the host knows. -/
structure Peripheral where
  name : String
  /-- Its number in the board's table. -/
  id : UInt16
  hardware : String
  /-- One bit per pin from the low end, set for an output. -/
  directions : UInt8
  pins : UInt8
  deriving DecidableEq, Repr

def Peripheral.isOutput (p : Peripheral) (pin : UInt8) : Bool :=
  pin < p.pins && p.directions &&& (1 <<< pin) != 0

namespace Catalog

def peripherals : List Peripheral := [
  { name := "null", id := 1, hardware := "null", directions := 0x00, pins := 0 },
  { name := "serout8", id := 2, hardware := "serout", directions := 0xff, pins := 8 },
  { name := "qtr8", id := 3, hardware := "qtr8", directions := 0xff, pins := 8 },
  { name := "qtr4", id := 4, hardware := "qtr4", directions := 0x0f, pins := 4 },
  { name := "ws2812", id := 5, hardware := "ws2812", directions := 0x0f, pins := 4 },
  { name := "rcrx", id := 6, hardware := "rcrx", directions := 0x0e, pins := 4 },
  { name := "serout4", id := 7, hardware := "serout", directions := 0x0f, pins := 4 },
  { name := "roten", id := 8, hardware := "roten", directions := 0x08, pins := 4 },
  { name := "servo4", id := 9, hardware := "servo4", directions := 0x0f, pins := 4 },
  { name := "stepu", id := 10, hardware := "stepu", directions := 0x0f, pins := 4 },
  { name := "stepb", id := 11, hardware := "stepb", directions := 0x0f, pins := 4 },
  { name := "pwmout4", id := 12, hardware := "pgen16", directions := 0x0f, pins := 4 },
  { name := "quad2", id := 13, hardware := "quad2", directions := 0x00, pins := 4 },
  { name := "pwmin4", id := 14, hardware := "pwmin4", directions := 0x00, pins := 4 },
  { name := "ping4", id := 15, hardware := "ping4", directions := 0x0f, pins := 4 },
  { name := "pgen16", id := 16, hardware := "pgen16", directions := 0x0f, pins := 4 },
  { name := "irio", id := 17, hardware := "irio", directions := 0x07, pins := 4 },
  { name := "pulse2", id := 18, hardware := "pulse2", directions := 0x0f, pins := 4 },
  { name := "touch4", id := 19, hardware := "count4", directions := 0x0f, pins := 4 },
  { name := "dc2", id := 20, hardware := "dc2", directions := 0x0f, pins := 4 },
  { name := "count4", id := 21, hardware := "count4", directions := 0x00, pins := 4 },
  { name := "gpio4", id := 22, hardware := "gpio4", directions := 0x0f, pins := 4 },
  { name := "in4", id := 23, hardware := "in4", directions := 0x00, pins := 4 },
  { name := "out4", id := 24, hardware := "out4", directions := 0x0f, pins := 4 },
  { name := "out4l", id := 25, hardware := "out4l", directions := 0x0f, pins := 4 },
  { name := "espi", id := 26, hardware := "espi", directions := 0x07, pins := 4 },
  { name := "ei2c", id := 27, hardware := "ei2c", directions := 0x07, pins := 4 },
  { name := "lcd6", id := 28, hardware := "lcd6", directions := 0x0f, pins := 4 },
  { name := "in32", id := 29, hardware := "in32", directions := 0x07, pins := 4 },
  { name := "io8", id := 30, hardware := "io8", directions := 0x07, pins := 4 },
  { name := "aamp", id := 31, hardware := "out4", directions := 0x0f, pins := 4 },
  { name := "dac8", id := 32, hardware := "espi", directions := 0x07, pins := 4 },
  { name := "qpot", id := 33, hardware := "espi", directions := 0x07, pins := 4 },
  { name := "rtc", id := 34, hardware := "espi", directions := 0x07, pins := 4 },
  { name := "avr", id := 35, hardware := "espi", directions := 0x07, pins := 4 },
  { name := "adc812", id := 36, hardware := "adc12", directions := 0x07, pins := 4 },
  { name := "slide4", id := 37, hardware := "adc12", directions := 0x07, pins := 4 },
  { name := "tif", id := 38, hardware := "tif", directions := 0x07, pins := 4 },
  { name := "us8", id := 39, hardware := "us8", directions := 0x07, pins := 4 },
  { name := "rfob", id := 40, hardware := "rfob", directions := 0x0c, pins := 4 },
  { name := "out32", id := 41, hardware := "out32", directions := 0x0f, pins := 4 },
  { name := "bb4io", id := 42, hardware := "bb4io", directions := 0x00, pins := 0 },
  { name := "axo2", id := 43, hardware := "axo2", directions := 0x00, pins := 0 },
  { name := "tang4k", id := 44, hardware := "tang4k", directions := 0x00, pins := 0 },
  { name := "tonegen", id := 45, hardware := "tonegen", directions := 0x0f, pins := 4 },
  { name := "stpxo2", id := 46, hardware := "stpxo2", directions := 0x00, pins := 0 }
]

def byId (id : UInt16) : Option Peripheral := peripherals.find? fun p => p.id = id

def byName (name : String) : Option Peripheral := peripherals.find? fun p => p.name = name

end Catalog

end BoardLink
