/-!
# Length in bytes

How long a text is when it is written in UTF-8.
-/

namespace AdminConsole.Text

/-- The bytes that the characters take in UTF-8. -/
def byteLength (cs : List Char) : Nat := cs.foldr (fun c n => c.utf8Size + n) 0

@[simp] theorem byteLength_nil : byteLength [] = 0 := rfl

@[simp] theorem byteLength_cons {c : Char} {cs : List Char} :
    byteLength (c :: cs) = c.utf8Size + byteLength cs := rfl

end AdminConsole.Text
