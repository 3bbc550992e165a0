import Scenarist.Text.Basic

/-! # Keywords

The words that open the parts of a document, by spoken language. In each list
the first word that fits counts, so the order matters. A step's word includes
the blank that parts it from the step. -/

namespace Scenarist.Gherkin

structure Language where
  feature : List Text
  background : List Text
  rule : List Text
  scenario : List Text
  outline : List Text
  examples : List Text
  context : List Text
  action : List Text
  outcome : List Text
  conjunction : List Text
  contrast : List Text

namespace Language

def steps (language : Language) : List Text :=
  language.context ++ language.action ++ language.outcome ++ language.conjunction ++
    language.contrast

def scenarios (language : Language) : List Text :=
  language.scenario ++ language.outline

def english : Language where
  feature := ["Feature", "Business Need", "Ability"]
  background := ["Background"]
  rule := ["Rule"]
  scenario := ["Example", "Scenario"]
  outline := ["Scenario Outline", "Scenario Template"]
  examples := ["Examples", "Scenarios"]
  context := ["* ", "Given "]
  action := ["* ", "When "]
  outcome := ["* ", "Then "]
  conjunction := ["* ", "And "]
  contrast := ["* ", "But "]

def french : Language where
  feature := ["Fonctionnalité"]
  background := ["Contexte"]
  rule := ["Règle"]
  scenario := ["Exemple", "Scénario"]
  outline := ["Plan du scénario", "Plan du Scénario"]
  examples := ["Exemples"]
  context := ["* ", "Soit ", "Sachant que ", "Sachant qu'", "Sachant ",
    "Etant donné que ", "Etant donné qu'", "Etant donné ", "Etant donnée ",
    "Etant donnés ", "Etant données ", "Étant donné que ", "Étant donné qu'",
    "Étant donné ", "Étant donnée ", "Étant donnés ", "Étant données "]
  action := ["* ", "Quand ", "Lorsque ", "Lorsqu'"]
  outcome := ["* ", "Alors ", "Donc "]
  conjunction := ["* ", "Et que ", "Et qu'", "Et "]
  contrast := ["* ", "Mais que ", "Mais qu'", "Mais "]

def german : Language where
  feature := ["Funktionalität", "Funktion"]
  background := ["Grundlage", "Hintergrund", "Voraussetzungen", "Vorbedingungen"]
  rule := ["Rule", "Regel"]
  scenario := ["Beispiel", "Szenario"]
  outline := ["Szenariogrundriss", "Szenarien"]
  examples := ["Beispiele"]
  context := ["* ", "Angenommen ", "Gegeben sei ", "Gegeben seien "]
  action := ["* ", "Wenn "]
  outcome := ["* ", "Dann "]
  conjunction := ["* ", "Und "]
  contrast := ["* ", "Aber "]

def russian : Language where
  feature := ["Функция", "Функциональность", "Функционал", "Свойство"]
  background := ["Предыстория", "Контекст"]
  rule := ["Правило"]
  scenario := ["Пример", "Сценарий"]
  outline := ["Структура сценария", "Шаблон сценария"]
  examples := ["Примеры"]
  context := ["* ", "Допустим ", "Дано ", "Пусть "]
  action := ["* ", "Когда ", "Если "]
  outcome := ["* ", "То ", "Затем ", "Тогда "]
  conjunction := ["* ", "И ", "К тому же ", "Также "]
  contrast := ["* ", "Но ", "А ", "Иначе "]

def chinese : Language where
  feature := ["功能"]
  background := ["背景"]
  rule := ["Rule"]
  scenario := ["场景", "剧本"]
  outline := ["场景大纲", "剧本大纲"]
  examples := ["例子"]
  context := ["* ", "假如", "假设", "假定"]
  action := ["* ", "当"]
  outcome := ["* ", "那么"]
  conjunction := ["* ", "而且", "并且", "同时"]
  contrast := ["* ", "但是"]

def japanese : Language where
  feature := ["フィーチャ", "機能"]
  background := ["背景"]
  rule := ["Rule"]
  scenario := ["シナリオ"]
  outline := ["シナリオアウトライン", "シナリオテンプレート", "テンプレ", "シナリオテンプレ"]
  examples := ["例", "サンプル"]
  context := ["* ", "前提"]
  action := ["* ", "もし"]
  outcome := ["* ", "ならば"]
  conjunction := ["* ", "かつ"]
  contrast := ["* ", "しかし", "但し", "ただし"]

def emoji : Language where
  feature := ["📚"]
  background := ["💤"]
  rule := ["Rule"]
  scenario := ["🥒", "📕"]
  outline := ["📖"]
  examples := ["📓"]
  context := ["* ", "😐"]
  action := ["* ", "🎬"]
  outcome := ["* ", "🙏"]
  conjunction := ["* ", "😂"]
  contrast := ["* ", "😔"]

def pirate : Language where
  feature := ["Ahoy matey!"]
  background := ["Yo-ho-ho"]
  rule := ["Rule"]
  scenario := ["Heave to"]
  outline := ["Shiver me timbers"]
  examples := ["Dead men tell no tales"]
  context := ["* ", "Gangway! "]
  action := ["* ", "Blimey! "]
  outcome := ["* ", "Let go and haul "]
  conjunction := ["* ", "Aye "]
  contrast := ["* ", "Avast! "]

def formal : Language where
  feature := ["Section"]
  background := ["Context"]
  rule := ["Rule"]
  scenario := ["Proof", "Evidence"]
  outline := ["Demonstration"]
  examples := ["Examples"]
  context := ["Given"]
  action := ["When"]
  outcome := ["Then"]
  conjunction := ["*", "And"]
  contrast := ["But"]

def table : List (Text × Language) :=
  [("en", english),
    ("fr", french),
    ("de", german),
    ("ru", russian),
    ("zh-CN", chinese),
    ("ja", japanese),
    ("em", emoji),
    ("en-pirate", pirate),
    ("formal", formal)]

def named (name : Text) : Option Language :=
  table.lookup name

end Language

end Scenarist.Gherkin
