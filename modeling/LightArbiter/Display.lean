import LightArbiter.Directive
import LightArbiter.UserRecord

/-!
# The display

What the light shows: its owner, if it has one, and whether somebody is near. A group of directives
is written only if the light shows something else than what it should show.
-/

namespace LightArbiter

/-- The colors of a light that nobody owns. -/
structure Palette where
  /-- While somebody is near. -/
  ambient : Color := Color.warmWhite
  /-- While nobody is near. -/
  off : Color := Color.off
deriving DecidableEq, Repr

/-- What a light can show. -/
structure Scene where
  winner : Option UserRecord
  present : Bool
deriving DecidableEq

namespace Scene

/-- The scene of a light that is free with nobody near. -/
def dark : Scene := ⟨none, false⟩

/-- Equality of scenes, in which owners are compared by `sameOwner`. -/
def same (s t : Scene) : Bool :=
  sameOwner s.winner t.winner && s.present == t.present

/-- The directives that make the light show the scene. -/
def directives (palette : Palette) : Scene → Group
  | ⟨some user, _⟩ =>
    [.color user.lightColor, .lowLight user.lowLight, .userId user.userId, .state .used,
      .tier user.tier]
  | ⟨none, true⟩ => [.state .free, .color palette.ambient, .lowLight true]
  | ⟨none, false⟩ => [.state .free, .color palette.off]

end Scene

/-- What the light is known to show. It is unknown when the directory has changed under its owner. -/
structure Display where
  palette : Palette
  shown : Option Scene
deriving DecidableEq

namespace Display

/-- A light that is dark. -/
def new (palette : Palette) : Display := ⟨palette, some Scene.dark⟩

/-- The owner that the light shows. -/
def winner (d : Display) : Option UserRecord :=
  d.shown.bind Scene.winner

/-- Does the light show that somebody is near? -/
def present (d : Display) : Bool :=
  (d.shown.map Scene.present).getD false

/-- Is the scene what the light is known to show? -/
def shows (d : Display) (scene : Scene) : Bool :=
  (d.shown.map scene.same).getD false

/-- Forget what the light shows, so that the next scene is written whatever it is. -/
def forget (d : Display) : Display :=
  { d with shown := none }

/-- Make the light show a scene: the group to write, unless the light shows it already. -/
def commit (d : Display) (scene : Scene) : Display × Option Group :=
  if d.shows scene then (d, none)
  else ({ d with shown := some scene }, some (scene.directives d.palette))

end Display

end LightArbiter
