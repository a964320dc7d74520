/-!
# Paths

Paths of the API begin with a slash; routers that mount handlers below a common path want them
without.
-/

namespace Scaffold.TypeScript

/-- A path without the slashes in front. -/
def relativePath (path : String) : String := String.ofList (path.toList.dropWhile (· == '/'))

end Scaffold.TypeScript
