import Numerus.DefaultRules.Group

/-!
The default ordinal rules. Locales with equal rules stand together, first those without any.
-/

namespace Numerus.DefaultRules

/-- The groups of locales with equal ordinal rules. -/
def ordinalGroups : List Group :=
  [⟨["aa ab af agq ak am an ann apc ar arn asa ast ba bas bem bew bez bg bgc bgn bho blt bm bo br",
     "brx bs bss byn cad cch ccp ce ceb cgg cho chr cic ckb co cop cs csw cu cv da dav de dje doi",
     "dsb dua dv dyo dz ebu ee el eo es et eu ewo fa ff fi fo frr fur fy gaa gez gl gn gsw guz gv",
     "ha haw he hnj hr hsb ia id ie ig ii io is iu ja jbo jgo jmc jv kaa kab kaj kam kcg kde kea",
     "ken kgp khq ki kkj kl kln km kn ko kok kpe ks ksb ksf ksh ku kxv ky la lag lb lg lkt lmo ln",
     "lrc lt ltg lu luo luy lv mai mas mdf mer mfe mg mgh mgo mhn mi mic ml mn mni moh mt mua mus",
     "my myv mzn naq nb nd nds nl nmg nn nnh no nqo nr nso nus nv ny nyn oc om os osa pa pap pcm",
     "pis pl prg ps pt qu quc raj rhg rif rm rn rof ru rw rwk sa sah saq sat sbp sd sdh se seh",
     "ses sg shi shn si sid sk skr sl sma smj smn sms sn so sr ss ssy st su sw syr szl ta te teo",
     "tg th ti tig tn to tok tpi tr trv trw ts tt twq tyv tzm ug ur uz vai ve vmw vo vun wa wae",
     "wal wbp wo xh xnr xog yav yi yo yrl yue za zgh zh zu"],
    []⟩,
   ⟨["as bn"],
    [("one", "n in 1,5,7,8,9,10"),
     ("two", "n in 2,3"),
     ("few", "n in 4"),
     ("many", "n in 6")]⟩,
   ⟨["az"],
    [("one", "i mod 10 in 1,2,5,7,8 or i mod 100 in 20,50,70,80"),
     ("few", "i mod 10 in 3,4 or i mod 1000 in 100,200,300,400,500,600,700,800,900"),
     ("many", "i in 0 or i mod 10 in 6 or i mod 100 in 40,60,90")]⟩,
   ⟨["bal fil fr ga ht hy lo ms ro vi"],
    [("one", "n in 1")]⟩,
   ⟨["be"],
    [("few", "n mod 10 in 2,3 and n mod 100 not in 12,13")]⟩,
   ⟨["blo"],
    [("zero", "i in 0"),
     ("one", "i in 1"),
     ("few", "i in 2,3,4,5,6")]⟩,
   ⟨["ca"],
    [("one", "n in 1,3"),
     ("two", "n in 2"),
     ("few", "n in 4")]⟩,
   ⟨["cy"],
    [("zero", "n in 0,7,8,9"),
     ("one", "n in 1"),
     ("two", "n in 2"),
     ("few", "n in 3,4"),
     ("many", "n in 5,6")]⟩,
   ⟨["en"],
    [("one", "n mod 10 in 1 and n mod 100 not in 11"),
     ("two", "n mod 10 in 2 and n mod 100 not in 12"),
     ("few", "n mod 10 in 3 and n mod 100 not in 13")]⟩,
   ⟨["gd"],
    [("one", "n in 1,11"),
     ("two", "n in 2,12"),
     ("few", "n in 3,13")]⟩,
   ⟨["gu hi"],
    [("one", "n in 1"),
     ("two", "n in 2,3"),
     ("few", "n in 4"),
     ("many", "n in 6")]⟩,
   ⟨["hu"],
    [("one", "n in 1,5")]⟩,
   ⟨["it lld sc scn vec"],
    [("many", "n in 11,8,80,800")]⟩,
   ⟨["ka"],
    [("one", "i in 1"),
     ("many", "i in 0 or i mod 100 in 2..20,40,60,80")]⟩,
   ⟨["kk"],
    [("many", "n mod 10 in 6 or n mod 10 in 9 or n mod 10 in 0 and n not in 0")]⟩,
   ⟨["kw"],
    [("one", "n in 1..4 or n mod 100 in 1..4,21..24,41..44,61..64,81..84"),
     ("many", "n in 5 or n mod 100 in 5")]⟩,
   ⟨["lij"],
    [("many", "n in 11,8,80..89,800..899")]⟩,
   ⟨["mk"],
    [("one", "i mod 10 in 1 and i mod 100 not in 11"),
     ("two", "i mod 10 in 2 and i mod 100 not in 12"),
     ("many", "i mod 10 in 7,8 and i mod 100 not in 17,18")]⟩,
   ⟨["mr"],
    [("one", "n in 1"),
     ("two", "n in 2,3"),
     ("few", "n in 4")]⟩,
   ⟨["ne"],
    [("one", "n in 1..4")]⟩,
   ⟨["or"],
    [("one", "n in 1,5,7..9"),
     ("two", "n in 2,3"),
     ("few", "n in 4"),
     ("many", "n in 6")]⟩,
   ⟨["sq"],
    [("one", "n in 1"),
     ("many", "n mod 10 in 4 and n mod 100 not in 14")]⟩,
   ⟨["sv"],
    [("one", "n mod 10 in 1,2 and n mod 100 not in 11,12")]⟩,
   ⟨["tk"],
    [("few", "n mod 10 in 6,9 or n in 10")]⟩,
   ⟨["uk"],
    [("few", "n mod 10 in 3 and n mod 100 not in 13")]⟩]

end Numerus.DefaultRules
