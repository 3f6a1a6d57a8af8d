import FpgaHost.Image.Basic
import FpgaHost.Text.Column

/-!
# Summaries of images

The report on an image: one line per fact, the sections and the arguments in columns.
-/

namespace FpgaHost

open Text

/-- The line of a section. -/
def SectionRecord.line (s : SectionRecord) : String :=
  s!"  {padRight 20 s.kind.name} {padRight 16 s.name} " ++
    s!"@{padRight 8 (toString s.offset)} {s.size} bytes"

/-- The line of an argument. -/
def Argument.line (a : Argument) : String :=
  s!"  [{padNumber 2 a.index}] {padRight 16 a.name} {padRight 12 a.typeName} " ++
    s!"{padRight 8 a.category.name} " ++ a.bankTag.getD "-"

/-- The lines of a report on an image. -/
def Image.lines (i : Image) : List String :=
  [s!"Format     : {i.format.name}",
    s!"Size       : {i.bytes.size} bytes",
    s!"Version    : {i.header.version}",
    s!"Mode       : {i.header.mode.name}",
    s!"Device     : {i.identity.vendor} / {i.identity.device}",
    "Emulation  : " ++ (i.emulation.map Emulation.name).getD "none",
    s!"Sections   : {i.sections.length}"] ++
  i.sections.map (·.line) ++
  ["Kernels    : " ++ ", ".intercalate (i.kernels.map (·.name)),
    s!"Arguments  : {i.args.size}"] ++
  i.args.values.map (·.line)

/-- The report on an image; every line ends with a line feed. -/
def Image.summary (i : Image) : String := String.join (i.lines.map (· ++ "\n"))

end FpgaHost
