/-
  Rulebook.Filter

  Which paths a file filter lets pass, and which it looks at.
-/
import Rulebook.FileSystem
import Rulebook.Pattern.Search
import Rulebook.Settings

namespace Rulebook.FilterSettings

/-- Whether a text matches a pattern.  An invalid pattern matches nothing. -/
def fits (pattern : Option String) (text : String) : Bool :=
  match pattern with
  | none => true
  | some pattern => (Pattern.search? pattern text).getD false

/-- Whether a path meets all conditions of a filter. -/
def isMet (fs : FileSystem) (filter : FilterSettings) (path : String) : Bool :=
  (!filter.folder || fs.isFolder path) && (!filter.file || fs.isFile path) &&
    fits filter.name (Path.fileName path) && fits filter.path path

/-- Whether a filter lets a path pass. -/
def passes (fs : FileSystem) (filter : FilterSettings) (path : String) : Bool :=
  filter.isMet fs path != filter.inverse

/-- The paths that a filter looks at for a path: the path itself, or those of its
    children that are asked for, files in front of folders. -/
def candidates (fs : FileSystem) (filter : FilterSettings) (path : String) : List String :=
  if filter.childrenFiles || filter.childrenFolders then
    if fs.isFolder path then
      let children := fs.children path
      (if filter.childrenFiles then children.filter fs.isFile else []) ++
        (if filter.childrenFolders then children.filter fs.isFolder else [])
    else []
  else [path]

end Rulebook.FilterSettings
