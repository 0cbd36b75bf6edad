import MenuOutline.Report
import MenuOutline.Proofs.Menu.Items
import MenuOutline.Proofs.Menu.Parses
import MenuOutline.Proofs.Pairing.Shape

namespace MenuOutline

-- A page for every line of a section that is neither blank nor a comment.
def Section.pages (language : String) (s : Section) : List Page :=
  s.filterMap fun source => (Line.read? language source.text).map .ofLine

namespace Menu

variable {o : ParseOptions} {sections : List Section} {m : Menu}

end Menu

namespace Report

variable {o : ParseOptions} {content : String} {m : Menu} {secondary : Option String}

end Report
end MenuOutline
