namespace SqlBridge

/-- What looking for a path comes to. -/
inductive Found where
  | nothing
  /-- The path cannot be followed to its end, or what stands there cannot be read, and the system says
      why. -/
  | unreadable (reason : String)
  | directory
  | file (content : ByteArray)

/-- What stands at each path, by its text. The system answers every lookup on its own: nothing is said
    of how paths are followed, nor of what is found at two of them. -/
structure Files where
  find : String → Found

end SqlBridge
