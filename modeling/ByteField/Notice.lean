namespace ByteField

/-!
# Notices

Longer computations report what they did in notices, each with a level that
says how much a listener has to care to hear it.
-/

/-- How important a notice is, from the least upwards. -/
inductive NoticeLevel where
  | trace
  | debug
  | info
  deriving Repr, DecidableEq

/-- The name a level is announced under. -/
def NoticeLevel.label : NoticeLevel → String
  | .trace => "TRACE"
  | .debug => "DEBUG"
  | .info => "INFO"

/-- One remark of a computation about its progress. -/
structure Notice where
  level : NoticeLevel
  message : String
  deriving Repr, DecidableEq

end ByteField
