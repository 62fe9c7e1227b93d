import ScriptDialog.Value

/-! The calls that drawing makes on the toolkit: on its immediate-mode widgets, on the renderer, on
the window and on the event loop. -/
namespace ScriptDialog

inductive Call where
  -- widgets and their place
  | getCursor
  | setCursor (x y : Value)
  | pushId (id : String)
  | popId
  | pushItemWidth (width : Double)
  | popItemWidth
  | askHovered
  | setTooltip (hint : Value)
  | separator
  | sameLine
  | button (label : Text)
  | text (text : Text)
  | disabledText (text : Text)
  | inputText (label : String) (value : Text)
  | inputTextArea (label : String) (value : Text) (width height : Double)
  | inputInt (label : String) (value : Int)
  | inputFloat (label : String) (value step fastStep : Double) (format : String)
  | combo (label : String) (index : Int) (items : List Value)
  | checkbox (label : Text) (state : Bool)
  | colorEdit (label : String) (channels : List Double) (withAlpha : Bool)
  -- a frame of the widget library
  | createContext
  | setContext
  | darkStyle
  | destroyContext
  | deltaTime (seconds : Double)
  | displaySize (width height : Double)
  | framebufferScale (x y : Double)
  | newFrame
  | placeWindow
  | sizeWindow (width height : Number)
  | beginWindow (title : String)
  | endWindow
  | renderFrame
  | getDrawData
  -- the renderer
  | createRenderer
  | newRenderer
  | refreshFont
  | renderDrawData
  | shutdownRenderer
  -- the native window
  | openWindow (width height : Int) (caption : String) (vsync : Bool)
  | moveWindow (x y : Int)
  | pushHandlers
  | clearColor (r g b a : Double)
  | clearWindow
  | drawWindow (dt : Value)
  | closeWindow
  -- the event loop
  | schedule
  | scheduleEvery (seconds : Double)
  | unschedule
  | runLoop
  | exitLoop
  | tickEvent
  | closeEvent

/-- A computation that makes calls on the toolkit and may fail, the calls made until then kept. -/
structure Performed (ε α : Type) where
  calls : List Call
  outcome : Except ε α

namespace Performed

variable {ε α β : Type}

def bind (p : Performed ε α) (f : α → Performed ε β) : Performed ε β :=
  match p.outcome with
  | .error fault => ⟨p.calls, .error fault⟩
  | .ok a => ⟨p.calls ++ (f a).calls, (f a).outcome⟩

instance : Monad (Performed ε) where
  pure a := ⟨[], .ok a⟩
  bind := bind

def call (c : Call) : Performed ε Unit := ⟨[c], .ok ()⟩

def fail (fault : ε) : Performed ε α := ⟨[], .error fault⟩

def ofExcept (x : Except ε α) : Performed ε α := ⟨[], x⟩

/-- The same calls with another kind of fault. -/
def mapFault {ε' : Type} (p : Performed ε α) (f : ε → ε') : Performed ε' α :=
  ⟨p.calls, p.outcome.mapError f⟩

/-- Makes the closing call after the body, also when the body fails. -/
def bracket (opening closing : Call) (body : Performed ε α) : Performed ε α :=
  ⟨opening :: body.calls ++ [closing], body.outcome⟩

@[simp] theorem calls_bracket (opening closing : Call) (body : Performed ε α) :
    (bracket opening closing body).calls = opening :: body.calls ++ [closing] := rfl

@[simp] theorem outcome_bracket (opening closing : Call) (body : Performed ε α) :
    (bracket opening closing body).outcome = body.outcome := rfl

end Performed

end ScriptDialog
