import Exif.Logging.Level

/-!
The log lines that reading settings and scanning write.
-/

namespace Exif

inductive Channel
  | settings
  | scan
deriving DecidableEq, Repr

structure LogLine where
  level : Int
  channel : Channel
  message : String
deriving DecidableEq, Repr

def LogLine.info (channel : Channel) (message : String) : LogLine :=
  ⟨Logging.infoLevel, channel, message⟩

def LogLine.warning (channel : Channel) (message : String) : LogLine :=
  ⟨Logging.warningLevel, channel, message⟩

end Exif
