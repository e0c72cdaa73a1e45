import SartoriusLib.Devices.Models
import SartoriusLib.Text

/-!
# SBI command tokens and unit strings

An SBI command is an escape byte followed by ASCII characters. The read-only tokens are the ones the raw
escape hatch sends without a confirmation.
-/

namespace SartoriusLib.Sbi

open SartoriusLib

def ESC : Bytes := [0x1B]

/-- `ESC + b"..."`. -/
def escToken (s : String) : Bytes := ESC ++ encodeAsciiReplace s.toList

def TOKEN_PRINT : Bytes := escToken "P"
def TOKEN_TARE : Bytes := escToken "T"
def TOKEN_ZERO : Bytes := escToken "V"
def TOKEN_TYPE : Bytes := escToken "x1_"
def TOKEN_SERIAL : Bytes := escToken "x2_"
def TOKEN_SOFTWARE : Bytes := escToken "x3_"

def sbiCommandTokens : List (Bytes × String) :=
  [(TOKEN_PRINT, "print"), (TOKEN_TARE, "tare_and_zero"), (escToken "K", "filter_very_stable"),
   (escToken "L", "filter_stable"), (escToken "M", "filter_unstable"),
   (escToken "N", "filter_very_unstable"), (escToken "O", "block_keys"), (escToken "Q", "beep"),
   (escToken "R", "unblock_keys"), (escToken "S", "restart"), (escToken "U", "tare"),
   (TOKEN_ZERO, "zero"), (escToken "Z", "internal_adjust"),
   (escToken "W", "external_adjust_default_weight"), (escToken "f0_", "menu_key"),
   (escToken "f1_", "start_calibration"), (escToken "f2_", "enter_key"),
   (escToken "f5_", "left_draft_shield_key"), (escToken "f6_", "right_draft_shield_key"),
   (escToken "p_", "print_key"), (escToken "m0_", "ionizer_status"), (escToken "m1_", "ionizer_on"),
   (escToken "m2_", "ionizer_off"), (escToken "s0_", "hold_menu_key"),
   (escToken "s3_", "cf_back_exit_cancel"), (escToken "w0_", "draft_shield_status"),
   (escToken "w1_", "draft_shield_open_left"), (escToken "w2_", "draft_shield_close"),
   (escToken "w3_", "draft_shield_open_upper"), (escToken "w4_", "draft_shield_open_right"),
   (escToken "w5_", "draft_shield_open_left_upper"), (escToken "w6_", "draft_shield_open_left_right"),
   (escToken "w7_", "draft_shield_open_right_upper"), (escToken "w8_", "draft_shield_open_all"),
   (TOKEN_TYPE, "print_weigher_type"), (TOKEN_SERIAL, "print_serial_number"),
   (TOKEN_SOFTWARE, "print_software_version")]

def sbiReadOnlyTokens : List Bytes :=
  [TOKEN_PRINT, escToken "p_", TOKEN_TYPE, TOKEN_SERIAL, TOKEN_SOFTWARE, escToken "m0_",
   escToken "w0_"]

def sbiUnitStrings : List (Text × MeasurementUnit) :=
  [("g".toList, .g), ("kg".toList, .kg), ("mg".toList, .mg), ("ug".toList, .ug), ("µg".toList, .ug),
   ("ct".toList, .ct), ("lb".toList, .lb), ("oz".toList, .oz), ("ozt".toList, .ozt),
   ("tl".toList, .taelHk), ("tlh".toList, .taelHk), ("tl.hk".toList, .taelHk),
   ("tlsg".toList, .taelSg), ("tl.sg".toList, .taelSg), ("tlt".toList, .taelTw),
   ("tl.tw".toList, .taelTw), ("gr".toList, .gr), ("dwt".toList, .dwt), ("n".toList, .newton),
   ("N".toList, .newton), ("t".toList, .t)]

def unitFromSbi (text : Text) : MeasurementUnit :=
  let key := Text.lower ((Text.strip text).filter (· ≠ ' '))
  (sbiUnitStrings.lookup key).getD .unknown

def describeToken (token : Bytes) : String :=
  (sbiCommandTokens.lookup token).getD (bytesHex token)

/-- Every read-only token is a documented command, and none of them tares or zeroes. -/
theorem sbiReadOnlyTokens_documented :
    ∀ t ∈ sbiReadOnlyTokens, t ∈ sbiCommandTokens.map Prod.fst ∧ t ≠ TOKEN_TARE ∧ t ≠ TOKEN_ZERO := by
  decide

end SartoriusLib.Sbi
