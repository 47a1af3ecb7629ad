/-!
Locale tags.  The subtags of a tag are separated by hyphens in BCP 47 and by underscores in locale
identifiers; both spellings name the same locale.
-/

namespace Phrasebook.Locale

def withUnderscores (tag : String) : String :=
  tag.map fun c => if c == '-' then '_' else c

def withHyphens (tag : String) : String :=
  tag.map fun c => if c == '_' then '-' else c

end Phrasebook.Locale
