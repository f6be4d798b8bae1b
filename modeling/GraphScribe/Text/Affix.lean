/-!
# Beginnings and endings

Whether a text starts or ends with another one.
-/

namespace GraphScribe.Text

/-- Whether a text starts with another one. -/
def startsWith (s start : String) : Bool := start.toList.isPrefixOf s.toList

/-- Whether a text ends with another one. -/
def endsWith (s ending : String) : Bool := ending.toList.isSuffixOf s.toList

end GraphScribe.Text
