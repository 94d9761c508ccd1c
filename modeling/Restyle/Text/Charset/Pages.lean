import Restyle.Text.Charset.Pages.Dos
import Restyle.Text.Charset.Pages.Ebcdic
import Restyle.Text.Charset.Pages.Iso8859
import Restyle.Text.Charset.Pages.Macintosh
import Restyle.Text.Charset.Pages.Other
import Restyle.Text.Charset.Pages.Windows

/-!
# All single-octet charsets

The pages of all families, other than those that need no table.
-/

namespace Restyle.Text.Charset

/-- All single-octet charsets with a table. -/
def pages : List Page :=
  iso8859Pages ++ windowsPages ++ dosPages ++ ebcdicPages ++ macintoshPages ++ otherPages

end Restyle.Text.Charset
