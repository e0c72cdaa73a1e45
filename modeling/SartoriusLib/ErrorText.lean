import SartoriusLib.Numbers

/-!
# What an error says

The class name of a library error and its text, in which the parts of the context follow the message.
-/

namespace SartoriusLib

/-- `type(exc).__name__`. -/
def ErrorClass.className : ErrorClass → String
  | .sartoriusError => "SartoriusError"
  | .configurationError => "SartoriusConfigurationError"
  | .unknownUnitError => "UnknownUnitError"
  | .invalidParameterIndexError => "InvalidParameterIndexError"
  | .invalidSbnError => "InvalidSbnError"
  | .confirmationRequiredError => "SartoriusConfirmationRequiredError"
  | .validationError => "SartoriusValidationError"
  | .transportError => "SartoriusTransportError"
  | .timeoutError => "SartoriusTimeoutError"
  | .connectionError => "SartoriusConnectionError"
  | .transientTransportError => "SartoriusTransientTransportError"
  | .protocolError => "SartoriusProtocolError"
  | .frameError => "SartoriusFrameError"
  | .parseError => "SartoriusParseError"
  | .commandRejectedError => "SartoriusCommandRejectedError"
  | .protocolUnsupportedError => "SartoriusProtocolUnsupportedError"
  | .autoprintActiveError => "SartoriusAutoprintActiveError"
  | .capabilityError => "SartoriusCapabilityError"
  | .unsupportedCommandError => "SartoriusUnsupportedCommandError"
  | .valueOutOfRangeError => "SartoriusValueOutOfRangeError"
  | .operationNotApplicableError => "SartoriusOperationNotApplicableError"
  | .missingArgsError => "SartoriusMissingArgsError"
  | .indexOutOfRangeError => "SartoriusIndexOutOfRangeError"
  | .firmwareError => "SartoriusFirmwareError"
  | .sinkError => "SartoriusSinkError"
  | .sinkDependencyError => "SartoriusSinkDependencyError"
  | .sinkSchemaError => "SartoriusSinkSchemaError"
  | .sinkWriteError => "SartoriusSinkWriteError"

/-- `str(exc)` of a value in the `extra` mapping. -/
def Extra.str : Extra → String
  | .int n => toString n
  | .text s => textRepr s
  | .flag b => if b then "True" else "False"
  | .texts l => textsRepr l
  | .seconds t => reprSeconds t

/-- `str(exc)`: the message and the parts of the context that are set. -/
def SartoriusError.str (e : SartoriusError) : String :=
  let bits : List String :=
    (e.context.commandName.map fun name => s!"command={name}").toList ++
      (e.context.opcode.map fun opcode => s!"opcode=0x{(hex02 opcode).toUpper}").toList ++
      (e.context.sbiToken.map fun token => s!"sbi_token={bytesRepr token}").toList ++
      (e.context.protocol.map fun protocol => s!"protocol={protocol}").toList ++
      (e.context.port.map fun port => s!"port={port}").toList ++
      (e.context.family.map fun family => s!"family={family}").toList ++
      (e.context.rawResponse.map fun raw => s!"raw_response={bytesRepr raw}").toList ++
      (if e.context.extra = [] then []
       else ["extra=\x7b" ++ String.intercalate ", "
         (e.context.extra.map fun x => textRepr x.1 ++ ": " ++ x.2.str) ++ "\x7d"])
  if bits = [] then e.message else e.message ++ " [" ++ String.intercalate ", " bits ++ "]"

/-- `repr(exc)`: the class and its argument. -/
def Exc.repr : Exc → String
  | .sartorius e => e.cls.className ++ "(" ++ textRepr e.message ++ ")"
  | .valueError message => "ValueError(" ++ textRepr message ++ ")"
  | .unicodeEncodeError => "UnicodeEncodeError()"
  | .assertionError => "AssertionError()"
  | .runtimeError message => "RuntimeError(" ++ textRepr message ++ ")"
  | .typeError message => "TypeError(" ++ textRepr message ++ ")"
  | .attributeError message => "AttributeError(" ++ textRepr message ++ ")"
  | .capabilityWarning message => "SartoriusCapabilityWarning(" ++ textRepr message ++ ")"
  | .cancelled => "CancelledError()"

end SartoriusLib
