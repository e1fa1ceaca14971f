import D2b.Lib.Text

/-!
# D2b.Clipd.Policy

MIME names (`policy.rs`): which may be transferred, and which hint at a secret.
-/

namespace D2b.Clipd

def allowedMimeTypes : List String :=
  ["text/plain;charset=utf-8", "text/plain", "text/html", "image/png"]

def secretHintMimeTypes : List String :=
  ["x-kde-passwordmanagerhint", "application/x-kde-passwordmanagerhint",
    "x-gnome-passwordmanagerhint", "application/x-gnome-passwordmanagerhint",
    "x-keepassxc-secret", "application/x-keepassxc-secret", "application/x-secret-service"]

/-- Blanks around the parts are dropped and capitals are lowered. -/
def normalizeMime (mime : String) : String :=
  String.ofList (([';'].intercalate (((Text.trim mime.toList).splitOn ';').map Text.trim)).map
    Char.toLower)

def isMimeAllowed (mime : String) : Bool := allowedMimeTypes.contains (normalizeMime mime)

def hasSecretHint (mimeNames : List String) : Bool :=
  mimeNames.any fun mime => secretHintMimeTypes.contains (normalizeMime mime)

example : isMimeAllowed "Text/Plain ; Charset=UTF-8" = true := by decide +kernel

example : hasSecretHint ["text/plain", "x-kde-passwordManagerHint"] = true := by decide +kernel

end D2b.Clipd
