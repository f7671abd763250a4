namespace Storyline.Text

def inOrder (ss : List String) : List String := ss.mergeSort fun a b => a ≤ b

def asSet (ss : List String) : List String := inOrder ss.eraseDups

end Storyline.Text
