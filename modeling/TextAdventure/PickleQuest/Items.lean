import TextAdventure.World.Item

/-!
# The items

The flashlight and the pickle lie nowhere at first; the drawer and the pickle jar yield them.
-/

set_option autoImplicit false

namespace TextAdventure.PickleQuest

def doormat : Item where
  name := "doormat"
  aliases := ["mat"]
  description := ["A bristly doormat that reads GO AWAY."]
  lookLines := [("doormat", "The letters are faded from years of being ignored.")]
  interactions := .ofList [
    ("clean", {
        message := "You scuff your feet on the doormat. It somehow feels rude to the doormat." })]

def sink : Item where
  name := "sink"
  aliases := ["tap", "faucet"]
  description := ["A chipped porcelain sink with a dripping tap."]
  lookLines := [("sink", "Drip. Drip. Drip.")]
  interactions := .ofList [
    ("drink", { message := "You slurp water straight from the tap. Refreshing, if undignified." }),
    ("clean", {
        message := "You give the sink a half-hearted scrub. It is no cleaner than before." })]

def drawer : Item where
  name := "drawer"
  aliases := ["junk drawer"]
  description := ["A kitchen drawer, hanging slightly open."]
  lookLines := [
    ("drawer", "Rubber bands, takeout menus and the glint of something metal."),
    ("flashlight", "Something long and cylindrical rolls around at the back.")]
  interactions := .ofList [
    ("open", {
        message :=
          "You tug the drawer open. Among the rubber bands and takeout menus you find a " ++
            "flashlight, which you pocket."
        newDescription := some ["A drawer full of rubber bands and takeout menus."]
        transforms := [{ result := some "flashlight" }] }),
    ("pull", { message := "The drawer squeaks in protest." })]

def fork : Item where
  name := "fork"
  aliases := ["utensil"]
  description := ["A sturdy steel fork with four slightly crooked tines."]
  lookLines := [
    ("fork",
      "Four tines of polished steel. Somehow you know this fork is destined for greatness. " ++
        "Scratched into the handle is a list:"),
    ("list_light the pantry", "[-] Light up the pantry"),
    ("list_liberate the pickle", "[-] Liberate the pickle"),
    ("list_savor the pickle", "[-] Savor the pickle")]
  collectible := true
  interactions := .ofList [
    ("use_with", {
        message :=
          "You wedge the fork under the lid and heave. With a triumphant pop the pickle jar " ++
            "opens and you fish out a fat pickle."
        transforms := [{ source := some "pickle jar", result := some "pickle" }] }),
    ("clean", {
        message := "You rinse the fork under the tap until it gleams."
        newDescription := some ["A sturdy steel fork, freshly rinsed and gleaming."]
        requires := ["sink"] })]

def flashlight : Item where
  name := "flashlight"
  aliases := ["torch", "flash light"]
  description := ["A dented flashlight that has seen better days."]
  lookLines := [("flashlight", "The switch is stiff but the batteries rattle reassuringly.")]
  collectible := true
  interactions := .ofList [
    ("turn on", {
        message := "Click. A wobbly beam of light cuts through the gloom."
        newDescription := some ["A dented flashlight, switched on and buzzing faintly."] })]

def shelves : Item where
  name := "shelves"
  aliases := ["shelf"]
  description := ["Rickety wooden shelves crowded with dusty jars."]
  lookLines := [
    ("shelves",
      "Beets, jam, something labelled DO NOT OPEN. The pickles are the only thing worth having.")]
  interactions := .ofList [
    ("climb", {
        message :=
          "You get one foot on the bottom shelf before it groans ominously. You climb back " ++
            "down." })]

def pickleJar : Item where
  name := "pickle jar"
  aliases := ["jar", "pickles"]
  description := ["A jar of pickles with a lid that time has welded shut."]
  lookLines := [
    ("pickle jar",
      "The pickles float serenely, just out of reach. The lid will need some leverage.")]
  collectible := true
  interactions := .ofList [
    ("use_with", {
        message :=
          "You wedge the fork under the lid and heave. With a triumphant pop the pickle jar " ++
            "opens and you fish out a fat pickle."
        transforms := [{ source := some "pickle jar", result := some "pickle" }] }),
    ("open", {
        message :=
          "You twist the lid with all your might. It does not budge. Some leverage might help." })]

def pickle : Item where
  name := "pickle"
  aliases := ["dill pickle"]
  description := ["A fat, glistening dill pickle."]
  lookLines := [("pickle", "It is the most beautiful pickle you have ever seen.")]
  collectible := true
  interactions := .ofList [
    ("chew", {
        message := "CRUNCH. Tangy, briny, perfect. This was worth every step."
        newDescription := some ["A dill pickle with one heroic bite missing."] })]

def couch : Item where
  name := "couch"
  aliases := ["sofa"]
  description := ["A lumpy old couch, sagging in the middle."]
  lookLines := [
    ("couch", "Lumpy, faded and sagging in the middle."),
    ("remote", "Something small and plastic is wedged between the cushions.")]
  interactions := .ofList [
    ("sit", {
        message :=
          "You sink into the couch. Something hard jabs you in the back: a TV remote, lost " ++
            "between the cushions."
        discovers := ["remote"] })]

def remote : Item where
  name := "remote"
  aliases := ["remote control", "clicker"]
  description := ["A TV remote with a sticky power button."]
  lookLines := [("remote", "Every button has been pressed so often the labels are gone.")]
  collectible := true
  interactions := .ofList [
    ("turn on", {
        message := "You mash the power button. Nothing happens. There is no TV in this house." })]

def piano : Item where
  name := "piano"
  description := ["An upright piano with several yellowed keys."]
  lookLines := [("piano", "Middle C is missing entirely.")]
  interactions := .ofList [
    ("play", {
        message :=
          "You plink out the first few notes of a song you never learned. Somewhere, a dog " ++
            "howls." })]

def lamp : Item where
  name := "lamp"
  aliases := ["floor lamp"]
  description := ["A floor lamp leaning in the corner."]
  lookLines := [("lamp", "The shade is crooked and the cord is frayed.")]
  interactions := .ofList [
    ("turn on", {
        message := "The floor lamp flickers on, casting a warm glow over the couch."
        newDescription := some ["A floor lamp glowing warmly in the corner."] })]

def items : List Item := [
  doormat,
  sink,
  drawer,
  fork,
  flashlight,
  shelves,
  pickleJar,
  pickle,
  couch,
  remote,
  piano,
  lamp]

end TextAdventure.PickleQuest
