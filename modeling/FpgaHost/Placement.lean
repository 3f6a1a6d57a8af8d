import FpgaHost.Text.Numeral

/-!
# Placement of buffers

A bank tag says where a buffer is to lie: `bank0` to `bank3` and `DDR[0]` to `DDR[3]` are four DDR
banks, `HBM[0]` to `HBM[31]` are the channels of high-bandwidth memory. The number in a tag is a
plain decimal numeral. `placementFlag?` is the flag that the device understands; any other tag has
none, and the buffer is placed by default.
-/

namespace FpgaHost.Placement

/-- The number of DDR banks. -/
def ddrBanks : Nat := 4

/-- The number of channels of high-bandwidth memory. -/
def hbmChannels : Nat := 32

/-- Marks a flag that holds a channel. -/
def topologyFlag : UInt32 := 0x80000000

/-- The flag of a DDR bank. -/
def ddrFlag (bank : Nat) : UInt32 := UInt32.ofNat (Nat.pow 2 bank)

/-- The flag of a channel. -/
def hbmFlag (channel : Nat) : UInt32 := UInt32.ofNat channel ||| topologyFlag

/-- The number that a plain decimal numeral denotes: no sign, no zero in front. -/
def index? (digits : List Char) : Option Nat :=
  if digits.head? = some '0' && digits.length ≠ 1 then none else Text.digits? digits

/-- What stands between `name[` and `]`. -/
def bracketed? (name tag : List Char) : Option (List Char) :=
  if (name ++ ['[']).isPrefixOf tag then
    let rest := tag.drop (name.length + 1)
    if rest.getLast? = some ']' then some rest.dropLast else none
  else none

/-- The flag of the DDR bank that a numeral names. -/
def ddrFlag? (digits : List Char) : Option UInt32 :=
  ((index? digits).filter (· < ddrBanks)).map ddrFlag

/-- The flag of the channel that a numeral names. -/
def hbmFlag? (digits : List Char) : Option UInt32 :=
  ((index? digits).filter (· < hbmChannels)).map hbmFlag

/-- The flag of a bank tag. -/
def placementFlag? (tag : String) : Option UInt32 :=
  let cs := tag.toList
  if ['b', 'a', 'n', 'k'].isPrefixOf cs then ddrFlag? (cs.drop 4)
  else
    match bracketed? ['D', 'D', 'R'] cs with
    | some digits => ddrFlag? digits
    | none => (bracketed? ['H', 'B', 'M'] cs).bind hbmFlag?

/-- The channel in a flag, if it holds one. -/
def hbmChannel? (flag : UInt32) : Option UInt32 :=
  if flag &&& topologyFlag ≠ 0 then some (flag &&& ~~~topologyFlag) else none

end FpgaHost.Placement
