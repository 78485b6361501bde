import SealedEnum.Spec

namespace SealedEnum

/-! The settings of a configuration file. -/

structure GeneralSettings where
  outputDirectory : String := "."
  licenseFile : Option String := none
  deriving DecidableEq

structure EnumSettings where
  typeName : String
  package : String
  values : List String
  undefinedValue : Option String := none
  destination : Option String := none
  licenseFile : Option String := none
  json : JsonOptions := {}
  deriving DecidableEq

structure Config where
  general : GeneralSettings := {}
  enums : List EnumSettings := []
  deriving DecidableEq

end SealedEnum
