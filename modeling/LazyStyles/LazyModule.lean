import LazyStyles.Fragments

/-!
# Lazy modules

The module that takes the place of a generated one.  Its default export is a function that injects the
stylesheet when it is first called and returns the class map; a program that never calls it has no use for
the module.
-/

namespace LazyStyles

/-- The text of the lazy module that is made of the fragments. -/
def Fragments.render (f : Fragments) : String :=
  "import styleInject from " ++ f.helper ++ ";\n" ++
  "var cssMap = " ++ f.classMap ++ "\n" ++
  "var hasRun;\n" ++
  "var styles = function styles() \x7b\n" ++
  "  if (!hasRun) \x7b\n" ++
  "    hasRun = true;\n" ++
  "    styleInject(" ++ f.css ++ ");\n" ++
  "  \x7d\n" ++
  "  return cssMap;\n" ++
  "\x7d\n" ++
  "\n" ++
  "export default styles"

end LazyStyles
